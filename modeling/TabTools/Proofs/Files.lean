import TabTools.Files.Path
import TabTools.Proofs.Text.Utf8

/-!
# Names in paths

A path with a text is cut at its slashes into the encodings of what lies between the slashes of the
text, since no longer encoding holds the byte of a slash. So the file that such a path leads to has a
name with a text (`text?_of_fileName?`).
-/

namespace TabTools.Files

theorem mem_pathPieces_of_mem {path : Path} {name : Name}
    (h : Component.name name ∈ components path) : Component.name name ∈ pathPieces path := by
  unfold components at h
  dsimp only at h
  split at h
  · rcases List.mem_cons.1 h with h | h
    · cases h
    · exact (List.mem_filter.1 h).1
  · split at h
    · rename_i rest hpieces
      rcases List.mem_cons.1 h with h | h
      · cases h
      · rw [hpieces]
        exact List.mem_cons_of_mem _ (List.mem_filter.1 h).1
    · exact (List.mem_filter.1 h).1

/-- A name in a path is one of its pieces. -/
theorem mem_pieces_of_fileName? {path : Path} {name : Name} (h : fileName? path = some name) :
    name ∈ Text.pieces (· == slash) path.bytes := by
  unfold fileName? at h
  split at h
  · rename_i last hlast
    cases h
    obtain ⟨piece, hpiece, hname⟩ := List.mem_filterMap.1
      (mem_pathPieces_of_mem (List.mem_of_getLast? hlast))
    unfold Component.ofPiece? at hname
    split at hname
    · cases hname
    · split at hname
      · cases hname
      · split at hname
        · cases hname
        · cases hname
          exact hpiece
  · cases h

/-- **The file of a path with a text** has a name with a text. -/
theorem text?_of_fileName? {path : Path} {text : String} {name : Name}
    (htext : path.text? = some text) (h : fileName? path = some name) :
    ∃ word : String, name.text? = some word ∧ Text.encode word.toList = name := by
  obtain ⟨chars, hchars, -⟩ := Option.map_eq_some_iff.1 htext
  have hpiece := mem_pieces_of_fileName? h
  rw [← Text.encode_of_decode? hchars, Text.pieces_encode (by decide) (d := '/') (by decide)]
    at hpiece
  obtain ⟨word, -, rfl⟩ := List.mem_map.1 hpiece
  exact ⟨String.ofList word, by rw [Name.text?, Text.decode?_encode]; rfl,
    by rw [String.toList_ofList]⟩

/-- So reading the name as a text loses nothing. -/
theorem encode_fileName? {path : Path} {text : String} (htext : path.text? = some text) :
    ((fileName? path).bind Name.text?).map (fun word => Text.encode word.toList) =
      fileName? path := by
  cases h : fileName? path with
  | none => rfl
  | some name =>
    obtain ⟨word, hword, hbytes⟩ := text?_of_fileName? htext h
    rw [Option.bind_some, hword, Option.map_some, hbytes]

end TabTools.Files
