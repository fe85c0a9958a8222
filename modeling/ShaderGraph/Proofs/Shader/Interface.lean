import ShaderGraph.Proofs.Shader.Compile

/-! The interface between the stages. Both stages list the same varyings at the same locations: those
of varying nodes, and behind them those that the functions of the calls ask for. -/
namespace ShaderGraph

theorem NodeConfig.nodeKind_eq_varying (config : NodeConfig) :
    config.nodeKind = .varying ↔ config.isKind "varying" := by
  rw [nodeKind]
  split
  · rename_i uniform
    have kind : config.kind = some "uniform" := by simpa [isKind] using uniform
    simp [isKind, kind]
  · split
    · rename_i varying
      simpa using varying
    · rename_i other
      simpa using other

def NodeDeclaration.varying? (settings : Table String NodeConfig) (d : NodeDeclaration) :
    Option Declaration :=
  match d.config settings with
  | .error _ => none
  | .ok config =>
    if config.isKind "varying" then
      some ⟨d.model ++ config.loadName.getD "", normalizeName d.name⟩
    else none

theorem GraphNode.varying?_of_ofDeclaration {settings : Table String NodeConfig} {id : Nat}
    {d : NodeDeclaration} {node : GraphNode} (made : ofDeclaration settings id d = .ok node) :
    d.varying? settings = if node.kind = .varying then some node.declaration else none := by
  rw [NodeDeclaration.varying?]
  cases read : d.config settings with
  | error cause =>
    rw [ofDeclaration, read] at made
    contradiction
  | ok config =>
    rw [ofDeclaration, read] at made
    obtain rfl := Except.ok.inj made
    simp only [config.nodeKind_eq_varying]
    rfl

theorem varyings_of_readNodes {settings : Table String NodeConfig} {id : Nat}
    {ds : List NodeDeclaration} {nodes : List GraphNode}
    (read : readNodes settings id ds = (nodes, none)) :
    (nodes.filter (·.kind = .varying)).map GraphNode.declaration =
      ds.filterMap (NodeDeclaration.varying? settings) := by
  induction ds generalizing id nodes with
  | nil =>
    obtain ⟨rfl, _⟩ := Prod.mk.inj read
    rfl
  | cons d rest ih =>
    obtain ⟨node, more, made, behind, rfl⟩ := readNodes_cons.mp read
    have first := GraphNode.varying?_of_ofDeclaration made
    split at first
    · rename_i varying
      rw [List.filter_cons_of_pos (by simpa using varying), List.filterMap_cons_some first,
        List.map_cons, ih behind]
    · rename_i other
      rw [List.filter_cons_of_neg (by simpa using other), List.filterMap_cons_none first,
        ih behind]

def Program.slots (program : Program) : List (Nat × Declaration) :=
  program.varyings.toList.mapIdx Prod.mk

namespace Program

variable (program : Program)

theorem slots_fst : program.slots.map Prod.fst = List.range program.slots.length := by
  apply List.ext_getElem
  · simp
  · intro i _ _
    simp [slots]

theorem slots_snd : program.slots.map Prod.snd = program.varyings.toList := by
  apply List.ext_getElem
  · simp [slots]
  · intro i _ _
    simp [slots]

theorem layoutLines_eq (direction : String) :
    layoutLines direction program.varyings =
      program.slots.map fun (location, d) => layoutLine direction location d := by
  apply List.ext_getElem
  · simp [layoutLines, slots]
  · intro i _ _
    simp [layoutLines, slots]

theorem unlines_layoutLines {direction between : String}
    (framed : ") " ++ direction ++ " " = between) :
    unlines (layoutLines direction program.varyings) =
      String.join (program.slots.map fun (location, d) =>
        "layout(location = " ++ toString location ++ between ++ d.type ++ " " ++ d.name ++ ";\n") := by
  rw [layoutLines_eq, unlines, List.map_map]
  refine congrArg String.join (List.map_congr_left fun slot _ => ?_)
  change layoutLine direction slot.1 slot.2 ++ "\n" = _
  rw [layoutLine_eq, framed, String.append_assoc]
  rfl

theorem vertexHeader_eq : program.vertexHeader = vertexPrelude ++
    String.join (program.slots.map fun (location, d) => "layout(location = " ++
      toString location ++ ") out " ++ d.type ++ " " ++ d.name ++ ";\n") := by
  have between : ") " ++ "out" ++ " " = ") out " := rfl
  rw [vertexHeader, vertexInterface, program.unlines_layoutLines between]

theorem fragmentHeader_eq : program.fragmentHeader = fragmentPrelude ++
    String.join (program.slots.map fun (location, d) => "layout(location = " ++
      toString location ++ ") in " ++ d.type ++ " " ++ d.name ++ ";\n") ++
    "layout(location = 0) out vec4 outColor;\n" := by
  have color : unlines [layoutLine "out" 0 ⟨"vec4", outputColor⟩] =
      "layout(location = 0) out vec4 outColor;\n" := by decide +kernel
  have between : ") " ++ "in" ++ " " = ") in " := rfl
  rw [fragmentHeader, fragmentInterface, unlines_append, color,
    program.unlines_layoutLines between, String.append_assoc]

theorem stageSource_eq (header main : String) : program.stageSource header main =
    header ++ ("\n" ++ program.definitions ++ "\n" ++ main) := by
  simp only [stageSource, String.append_assoc]

end Program

variable {supplied : SortedSet String} {document : GraphDocument}

namespace Compilation

variable {library final : Library σ} {program : Program}

theorem varyings_eq (c : Compilation supplied document library final program) :
    ∃ settings, settingTable document.settings = .ok settings ∧
      program.varyings.toList =
        (document.nodes.filterMap (NodeDeclaration.varying? settings) ++
          c.steps.flatMap CallStep.varyings).eraseDups := by
  obtain ⟨settings, nodes, kept, made, graph⟩ := Graph.ofDocument_eq_ok c.read
  refine ⟨settings, kept, ?_⟩
  have declared : (Program.beforeCalls c.graph).varyings =
      .ofList (document.nodes.filterMap (NodeDeclaration.varying? settings)) := by
    rw [← varyings_of_readNodes made, graph]
    rfl
  rw [c.grown.varyings, declared, DeclarationSet.ofList, DeclarationSet.extend_extend]
  exact DeclarationSet.toList_ofList _

/-- The varyings of a call are those of the signature that is kept for its function. -/
theorem asked_eq (c : Compilation supplied document library final program) :
    c.steps.flatMap CallStep.varyings = program.calls.flatMap fun call =>
      ((final.signatures.get? call.function).map (·.varyings.toList)).getD [] := by
  rw [c.calls_eq, List.flatMap_map]
  apply List.flatMap_congr
  intro step member
  simp [CallStep.call, Call.ofNode, CallStep.varyings, (c.fits step member).signature]

end Compilation

/-- Both stages list the same varyings at the same locations, and these count from zero. The
varyings are those of the varying nodes in the order of the document and then those of the called
functions in the order of the calls, each once, at its first place. Both stages end in the same text,
in front of which the fragment stage has the line of its color. -/
theorem interfaces_agree [ResourceStore σ] {library : Library σ} {shader : Shader}
    (compiled : (compile supplied document library).result = .ok shader) :
    ∃ settings, settingTable document.settings = .ok settings ∧
      let final := (compile supplied document library).state
      let declared := document.nodes.filterMap (NodeDeclaration.varying? settings)
      let asked := shader.program.calls.flatMap fun call =>
        ((final.signatures.get? call.function).map (·.varyings.toList)).getD []
      let behind := "\n" ++ shader.program.definitions ++ "\n" ++ shader.main
      (∀ call ∈ shader.program.calls, (final.signatures.get? call.function).isSome) ∧
      ∃ slots : List (Nat × Declaration),
        slots.map Prod.fst = List.range slots.length ∧
        slots.map Prod.snd = (declared ++ asked).eraseDups ∧
        (slots.map Prod.snd).Nodup ∧
        shader.vertexSource = vertexPrelude ++
          String.join (slots.map fun (location, d) => "layout(location = " ++
            toString location ++ ") out " ++ d.type ++ " " ++ d.name ++ ";\n") ++ behind ∧
        shader.fragmentSource = fragmentPrelude ++
          String.join (slots.map fun (location, d) => "layout(location = " ++
            toString location ++ ") in " ++ d.type ++ " " ++ d.name ++ ";\n") ++
          "layout(location = 0) out vec4 outColor;\n" ++ behind := by
  obtain ⟨c⟩ := compile_returns ⟨compiled, rfl⟩
  obtain ⟨settings, kept, varyings⟩ := c.varyings_eq
  refine ⟨settings, kept, fun call member => ?_, shader.program.slots, shader.program.slots_fst,
    ?_, ?_, ?_, ?_⟩
  · rw [c.calls_eq] at member
    obtain ⟨step, among, rfl⟩ := List.mem_map.mp member
    exact Option.isSome_iff_exists.mpr ⟨_, (c.fits step among).signature⟩
  · rw [shader.program.slots_snd, varyings, c.asked_eq]
  · rw [shader.program.slots_snd]
    exact shader.program.varyings.nodup
  · rw [Shader.vertexSource, Program.stageSource_eq, Program.vertexHeader_eq]
  · rw [Shader.fragmentSource, Program.stageSource_eq, Program.fragmentHeader_eq]

def lighting : Library MemoryStore where
  store := .empty
  signatures := .ofList
    [("light", ⟨"light", [], [], none, ∅, .ofList [⟨"vec3", "normal"⟩, ⟨"vec2", "uv"⟩], ∅⟩)]
  sources := ∅

def litSurface : GraphDocument where
  nodes := [⟨"a", "light", none⟩, ⟨"uv", "vec2", some (.mapping [(.string "type", .string "varying")])⟩,
    ⟨"b", "light", none⟩]
  edges := []
  settings := []

theorem litSurface_interfaces :
    ∃ shader, (compile ∅ litSurface lighting).result = .ok shader ∧
      let behind := "\n" ++ shader.program.definitions ++ "\n" ++ shader.main
      shader.vertexSource = vertexPrelude ++
        "layout(location = 0) out vec2 uv;\nlayout(location = 1) out vec3 normal;\n" ++ behind ∧
      shader.fragmentSource = fragmentPrelude ++
        "layout(location = 0) in vec2 uv;\nlayout(location = 1) in vec3 normal;\n" ++
        "layout(location = 0) out vec4 outColor;\n" ++ behind := by
  have compiled : (compile ∅ litSurface lighting).result = .ok _ := rfl
  obtain ⟨settings, kept, _, slots, locations, declared, _, vertex, fragment⟩ :=
    interfaces_agree compiled
  obtain rfl := Except.ok.inj ((rfl : settingTable litSurface.settings = .ok _).symm.trans kept)
  have names : slots.map Prod.snd = [⟨"vec2", "uv"⟩, ⟨"vec3", "normal"⟩] :=
    declared.trans (by decide +kernel)
  have length : slots.length = 2 := by simpa using congrArg List.length names
  have counted : slots.map Prod.fst = [0, 1] := locations.trans (by rw [length]; rfl)
  obtain rfl : slots = [(0, ⟨"vec2", "uv"⟩), (1, ⟨"vec3", "normal"⟩)] := by
    rw [← List.zip_unzip slots, List.unzip_eq_map, counted, names]
    rfl
  exact ⟨_, compiled, vertex, fragment⟩

end ShaderGraph
