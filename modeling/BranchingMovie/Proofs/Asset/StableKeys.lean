import BranchingMovie.Asset.DataDir
import BranchingMovie.Graph.Basic
import BranchingMovie.Proofs.Asset.KeyLaws
import BranchingMovie.Proofs.Outcome

/-!
# Names that their keys stand for

A key is taken for a name again: by folders that are asked for it, by pointers and by graphs.  Then
it is trimmed a second time (`keyChars_keyChars_eq`), and this time there may be a blank in front:
one that stood behind the last separator of the name.  Where there is none the key stands for the
name everywhere, and where there is one it does not (`key_stands_for_name`).
-/

namespace BranchingMovie

namespace Asset

/-! ## Keys of keys -/

/-- A key is trimmed when it is taken for a name. -/
theorem keyChars_keyChars_eq (name : List Char) :
    keyChars (keyChars name) = Text.trim (keyChars name) := by
  have hInfix := Text.trim_infix (keyChars name)
  have hSep : ∀ c ∈ Text.trim (keyChars name), isSeparator c = false :=
    fun c hc => isSeparator_of_mem_keyChars (hInfix.subset hc)
  have hLower : ∀ c ∈ Text.trim (keyChars name), c.toLower = c := by
    intro c hc
    obtain ⟨d, -, rfl⟩ := List.mem_map.1 (hInfix.subset hc)
    exact Text.toLower_toLower d
  rw [keyChars, Text.fields_of_no_sep hSep]
  exact (List.map_congr_left hLower).trans (List.map_id _)

/-- The last separator of the trimmed name has no blank behind it. -/
def NoBlankAfterLastSeparator (name : List Char) : Prop :=
  ∀ front s c tail, Text.trim name = front ++ s :: c :: tail → isSeparator s = true →
    (∀ d ∈ c :: tail, isSeparator d = false) → Text.isBlank c = false

/-- A key never ends with a blank, because the name does not when it is cut. -/
theorem isBlank_last_keyChars (name : List Char) :
    ∀ c ∈ (keyChars name).getLast?, Text.isBlank c = false := by
  intro c hc
  rw [keyChars, Text.lowerAscii, List.getLast?_map] at hc
  obtain ⟨d, hd, rfl⟩ := Option.map_eq_some_iff.1 hc
  rw [Text.isBlank_toLower]
  refine (Text.trimmed_trim name).last d ?_
  obtain hAll | ⟨front, s, hFront, -⟩ :=
    Text.getLastD_fields_cases isSeparator (Text.trim name)
  · rwa [hAll] at hd
  · rw [hFront, List.getLast?_append, List.getLast?_cons, hd]
    rfl

/-- A key begins with a blank only where one stands behind the last separator. -/
theorem trimmed_keyChars_iff {name : List Char} :
    Text.Trimmed (keyChars name) ↔ NoBlankAfterLastSeparator name := by
  constructor
  · intro hTrimmed front s c tail hName hSep hTail
    have hKey : keyChars name = Text.lowerAscii (c :: tail) := by
      rw [keyChars, hName, Text.fields_append hSep, Text.fields_of_no_sep hTail,
        List.getLastD_concat]
    rw [← Text.isBlank_toLower]
    refine hTrimmed.first _ ?_
    rw [hKey]
    rfl
  · intro h
    refine ⟨fun c hc => ?_, isBlank_last_keyChars name⟩
    rw [keyChars, Text.lowerAscii, List.head?_map] at hc
    obtain ⟨d, hd, rfl⟩ := Option.map_eq_some_iff.1 hc
    rw [Text.isBlank_toLower]
    have hPiece := Text.sep_of_mem_fields
      (Text.getLastD_fields_mem isSeparator (Text.trim name))
    obtain hAll | ⟨front, s, hFront, hSep⟩ :=
      Text.getLastD_fields_cases isSeparator (Text.trim name)
    · rw [hAll] at hd
      exact (Text.trimmed_trim name).first d hd
    · generalize (Text.fields isSeparator (Text.trim name)).getLastD [] = piece at *
      obtain ⟨tail, rfl⟩ := List.head?_eq_some_iff.1 hd
      exact h front s d tail hFront hSep hPiece

/-- **The key of a key is the key itself** exactly when no blank stands behind the last separator of
the name. -/
theorem key_key_iff {name : String} :
    key (key name) = key name ↔ NoBlankAfterLastSeparator name.toList := by
  have hKey : key (key name) = String.ofList (Text.trim (keyChars name.toList)) := by
    rw [key, key, String.toList_ofList, keyChars_keyChars_eq]
  rw [← trimmed_keyChars_iff, hKey, key]
  constructor
  · intro h
    rw [← String.ofList_injective h]
    exact Text.trimmed_trim _
  · intro h
    rw [Text.trim_of_trimmed h]

end Asset

/-! ## What takes a name by its key -/

/-- What a name finds, without the name in the refusal. -/
theorem DataDir.toOption_locate (data : DataDir) (name : String) :
    (data.locate name).toOption = pathOf (Asset.key name) data.files := by
  unfold locate
  split
  · rename_i hPath
    rw [hPath]
    rfl
  · rename_i hNone
    rw [hNone]
    rfl

section File

variable {name file path : String}

/-- The only file of a folder is found by the names with its key. -/
theorem DataDir.locate_only_file (h : Asset.key file = Asset.key name) :
    (empty.addFile file path).1.locate name = .ok path := by
  rw [locate_ok_iff, ← h]
  exact if_pos rfl

theorem DataDir.locate_no_file (h : Asset.key file ≠ Asset.key name) :
    (empty.addFile file path).1.locate name = .error ⟨name⟩ := by
  rw [locate_error_iff]
  exact if_neg h

end File

section Script

variable {name other : String} {entries : List Entry} {start : NodePointer}

/-- The only script of a graph has the names with its key. -/
theorem NodeGraph.script?_only_script (h : Asset.key other = Asset.key name) :
    (ofScripts [.ofName other entries] start).script? name = some (.ofName other entries) := by
  show (Table.empty.insert (Asset.key other) _).get? (Asset.key name) = _
  rw [Table.get?_insert, if_pos h]

theorem NodeGraph.script?_no_script (h : Asset.key other ≠ Asset.key name) :
    (ofScripts [.ofName other entries] start).script? name = none := by
  show (Table.empty.insert (Asset.key other) _).get? (Asset.key name) = _
  rw [Table.get?_insert, if_neg h, Table.get?_empty]

end Script

namespace Asset

/-- **Where a key stands for its name.**  When no blank stands behind the last separator of a name,
its key is the key of itself, every folder finds the same under both or nothing under either, both
make the same pointers, and every graph has the same script under both.  When there is a blank, none
of this is so: a folder with a file of the key finds it under the key and nothing under the name,
the pointers differ, and a graph with a script of the key has it under the key and none under the
name. -/
theorem key_stands_for_name (name : String) :
    (key (key name) = key name ↔ NoBlankAfterLastSeparator name.toList) ∧
    (NoBlankAfterLastSeparator name.toList →
      (∀ data : DataDir, (data.locate (key name)).toOption = (data.locate name).toOption ∧
        data.contains (key name) = data.contains name) ∧
      (∀ index, NodePointer.ofName (key name) index = NodePointer.ofName name index) ∧
      ∀ graph : NodeGraph, graph.script? (key name) = graph.script? name) ∧
    (¬ NoBlankAfterLastSeparator name.toList →
      (∀ path,
        let data := (DataDir.empty.addFile (key name) path).1
        data.locate (key name) = .ok path ∧ data.locate name = .error ⟨name⟩) ∧
      (∀ index, NodePointer.ofName (key name) index ≠ NodePointer.ofName name index) ∧
      ∀ entries start,
        let script := Script.ofName (key name) entries
        let graph := NodeGraph.ofScripts [script] start
        graph.script? (key name) = some script ∧ graph.script? name = none) := by
  refine ⟨key_key_iff, fun h => ?_, fun h => ?_⟩
  · have hKey : key (key name) = key name := key_key_iff.2 h
    refine ⟨fun data => ⟨?_, ?_⟩, fun index => ?_, fun graph => ?_⟩
    · rw [DataDir.toOption_locate, DataDir.toOption_locate, hKey]
    · rw [DataDir.contains, DataDir.contains, hKey]
    · rw [NodePointer.ofName, NodePointer.ofName, hKey]
    · rw [NodeGraph.script?, NodeGraph.script?, hKey]
  · have hKey : key (key name) ≠ key name := fun hSame => h (key_key_iff.1 hSame)
    have hFile : key (key name) = key (key name) := rfl
    refine ⟨?_, ?_, ?_⟩
    · intro path data
      exact ⟨DataDir.locate_only_file hFile, DataDir.locate_no_file hKey⟩
    · intro index hSame
      simp only [NodePointer.ofName, NodePointer.mk.injEq] at hSame
      exact hKey hSame.1
    · intro entries start script graph
      exact ⟨NodeGraph.script?_only_script hFile, NodeGraph.script?_no_script hKey⟩

/-- A name with a folder and blanks around it, and one with a blank behind the folder. -/
theorem key_stands_for_name_of_folders :
    NodePointer.ofName (key " CD1\\Intro.NOD ") 0 = NodePointer.ofName " CD1\\Intro.NOD " 0 ∧
      NodePointer.ofName (key "FILM/ b.nod") 0 ≠ NodePointer.ofName "FILM/ b.nod" 0 := by
  have hStable : key (key " CD1\\Intro.NOD ") = key " CD1\\Intro.NOD " := by decide
  have hLost : key (key "FILM/ b.nod") ≠ key "FILM/ b.nod" := by decide
  obtain ⟨hIff, hSame, -⟩ := key_stands_for_name " CD1\\Intro.NOD "
  obtain ⟨hOther, -, hDiffers⟩ := key_stands_for_name "FILM/ b.nod"
  exact ⟨(hSame (hIff.1 hStable)).2.1 0, (hDiffers (mt hOther.2 hLost)).2.1 0⟩

/-- **A key need not stand for its name.**  The key of the file `b.nod` with a blank in front, in a
folder `FILM`, is not the key of itself; a folder that was scanned finds the file under the key and
nothing under the name; and neither the pointers nor the scripts of a graph agree. -/
theorem not_forall_key_stands_for_name :
    let tree : FileTree := .folder [("FILM", .folder [(" b.nod", .file [])])]
    ∃ data : DataDir, (DataDir.ofRoots [("data", some tree)]).1 = .ok data ∧
      data.locate (key "FILM/ b.nod") = .ok "data/FILM/ b.nod" ∧
      data.locate "FILM/ b.nod" = .error ⟨"FILM/ b.nod"⟩ ∧
      (¬ ∀ name, key (key name) = key name) ∧
      (¬ ∀ (data : DataDir) (name : String),
        (data.locate (key name)).toOption = (data.locate name).toOption) ∧
      (¬ ∀ name index, NodePointer.ofName (key name) index = NodePointer.ofName name index) ∧
      ¬ ∀ (graph : NodeGraph) (name : String), graph.script? (key name) = graph.script? name := by
  intro tree
  have hLost : key (key "FILM/ b.nod") ≠ key "FILM/ b.nod" := by decide
  let data : DataDir := ⟨[("b.nod", "data/FILM/ b.nod")]⟩
  have hFound : data.locate (key "FILM/ b.nod") = .ok "data/FILM/ b.nod" := by decide
  have hMissed : data.locate "FILM/ b.nod" = .error ⟨"FILM/ b.nod"⟩ := by decide
  refine ⟨data, ?_, hFound, hMissed, fun h => ?_, fun h => ?_, fun h => ?_, fun h => ?_⟩
  · exact Outcome.toOption_eq_some.1 (by decide +kernel)
  · exact hLost (h _)
  · have hSame := h data "FILM/ b.nod"
    rw [hFound, hMissed] at hSame
    cases hSame
  · have hSame := h "FILM/ b.nod" 0
    simp only [NodePointer.ofName, NodePointer.mk.injEq] at hSame
    exact hLost hSame.1
  · have hSame := h (.ofScripts [.ofName (key "FILM/ b.nod") []] ⟨"", 0⟩) "FILM/ b.nod"
    rw [NodeGraph.script?_only_script rfl, NodeGraph.script?_no_script hLost] at hSame
    cases hSame

end Asset
end BranchingMovie
