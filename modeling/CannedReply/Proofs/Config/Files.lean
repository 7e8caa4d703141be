import CannedReply.CommandLine.Effective
import CannedReply.Machine.Files
import CannedReply.Proofs.Config.Loading
import CannedReply.Proofs.Text.Utf8

/-!
A file is read as its text is, as long as it holds one. Bytes that are not well formed are refused
as such, whatever the text in front of them says, and so is a path where nothing can be read.
-/

namespace CannedReply.Config

variable {bytes : ByteArray} {text : String} {e : ConfigError}

/-- What is wrong with a text is never that it cannot be read. -/
theorem parse_ne_unreadable (text : String) (failure : Failure) :
    parse text ≠ .error (.unreadable failure) := by
  intro refused
  unfold parse at refused
  split at refused
  · cases refused
  · split at refused
    · cases refused
    · next c _ =>
      cases checked : c.validate <;> simp [checked, Except.mapError] at refused

theorem load_of_decodes (decodes : Utf8.Decodes bytes.data.toList text.toList) :
    load (.ok bytes) = parse text := by
  simp only [load, Bytes.fromUTF8?_eq_some_iff.2 decodes]

theorem load_of_not_wellFormed (broken : ¬Utf8.WellFormed bytes.data.toList) :
    load (.ok bytes) = .error (.unreadable .notText) := by
  simp only [load, Bytes.fromUTF8?_eq_none_iff.2 broken]

/-- Bytes are refused as unreadable just where they are not well formed. -/
theorem load_unreadable_iff (bytes : ByteArray) :
    (∃ failure, load (.ok bytes) = .error (.unreadable failure)) ↔
      ¬Utf8.WellFormed bytes.data.toList := by
  constructor
  · rintro ⟨failure, refused⟩ wellFormed
    obtain ⟨text, decodes⟩ := Bytes.wellFormed_iff.1 wellFormed
    rw [load_of_decodes decodes] at refused
    exact parse_ne_unreadable _ _ refused
  · intro broken
    exact ⟨.notText, load_of_not_wellFormed broken⟩

/-- What is at a path cannot be read, or it is bytes, which are read just where they are well
formed, and then as the one text that they are the bytes of. The bytes of a text are read as that
text. A command line that names a path where nothing can be read comes to no configuration. -/
theorem file_is_read_as_its_text (tree : FileTree) (path : String) :
    (∀ failure, tree.read path = .error failure →
      load (tree.read path) = .error (.unreadable failure) ∧
      ∀ settings : CommandLine.Settings, settings.config = some path →
        settings.effective tree.read = .error (.unreadable failure)) ∧
    (∀ bytes, tree.read path = .ok bytes →
      ((∃ failure, load (tree.read path) = .error (.unreadable failure)) ↔
        ¬Utf8.WellFormed bytes.data.toList) ∧
      (Utf8.WellFormed bytes.data.toList →
        ∃! text : String, Utf8.Decodes bytes.data.toList text.toList) ∧
      ∀ text : String, Utf8.Decodes bytes.data.toList text.toList →
        load (tree.read path) = parse text) ∧
    ∀ text : String, tree.read path = .ok text.toUTF8 → load (tree.read path) = parse text := by
  refine ⟨fun failure fails => ?_, fun bytes holds => ?_, fun text holds => ?_⟩
  · have refused : load (tree.read path) = .error (.unreadable failure) := by
      rw [fails]
      rfl
    refine ⟨refused, fun settings named => ?_⟩
    simp only [CommandLine.Settings.effective, CommandLine.Settings.base, named, refused]
    rfl
  · rw [holds]
    refine ⟨load_unreadable_iff bytes, fun wellFormed => ?_, fun text => load_of_decodes⟩
    obtain ⟨text, decodes⟩ := Bytes.wellFormed_iff.1 wellFormed
    exact ⟨text, decodes, fun text' decodes' => Bytes.decodes_unique decodes' decodes⟩
  · rw [holds]
    exact load_of_decodes (Bytes.decodes_ofText text)

/-- A path of one letter is one name. -/
theorem splitOn_letter : ∀ path ∈ ["a", "b", "c"], path.splitOn "/" = [path] := by
  simp only [List.forall_mem_cons]
  refine ⟨?_, ?_, ?_, List.forall_mem_nil _⟩ <;>
  · rw [String.splitOn, String.splitOnAux, String.splitOnAux]
    decide +kernel

/-- Of two files with the same mistake, the one that goes on with half a surrogate pair is refused
for its bytes. -/
theorem mistake_in_front_of_a_surrogate :
    let mistake := "listener"
    let broken : Bytes := Bytes.ofText mistake ++ [0xed, 0xa0, 0x80]
    let tree : FileTree :=
      ⟨[(["", "a"], .file mistake.toUTF8), (["", "b"], .file ⟨broken.toArray⟩)]⟩
    load (tree.read "a") = .error .malformed ∧
    (∃ failure, load (tree.read "b") = .error (.unreadable failure)) ∧
    load (tree.read "c") = .error (.unreadable .noSuchFile) := by
  intro mistake broken tree
  have undecoded : String.fromUTF8? ⟨broken.toArray⟩ = none := by decide +kernel
  have broken' : ¬Utf8.WellFormed broken := Bytes.fromUTF8?_eq_none_iff.1 undecoded
  have first : tree.read "a" = .ok mistake.toUTF8 := by
    rw [FileTree.read, splitOn_letter "a" (by decide)]
    decide +kernel
  have second : tree.read "b" = .ok ⟨broken.toArray⟩ := by
    rw [FileTree.read, splitOn_letter "b" (by decide)]
    decide +kernel
  have third : tree.read "c" = .error .noSuchFile := by
    rw [FileTree.read, splitOn_letter "c" (by decide)]
    decide +kernel
  have refused : parse mistake = .error .malformed := by decide +kernel
  have read := file_is_read_as_its_text tree
  refine ⟨?_, ((read "b").2.1 _ second).1.2 broken', ((read "c").1 _ third).1⟩
  rw [(read "a").2.2 mistake first]
  exact refused

end CannedReply.Config
