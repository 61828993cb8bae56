import Retouch.ConfigFile
import Retouch.Proofs.Files.Workspace

/-! What a rule file is loaded as.
Loading looks a file up, and its text and its path tell the rest. Nothing but the record changes. -/
namespace Retouch.Config

variable {path text : Bytes} {w : Workspace} {c : Config}

def ofText (path text : Bytes) : Except LoadError Config :=
  match Document.Format.ofFile? path with
  | none => .error (.unknownFormat path)
  | some format =>
    match Document.parse format text with
    | .error e => .error (.parsing e)
    | .ok parsed =>
      match (parsed.placed path).validate with
      | (_, some e) => .error (.invalid e)
      | (c, none) => .ok c

def loaded (w : Workspace) (path : Bytes) : Except LoadError Config :=
  match w.tree.lookup w.cwd path with
  | .error f => .error (.reading (.access "open" path f))
  | .ok (_, .directory) => .error (.reading (.access "read" path .isDirectory))
  | .ok (_, .file _ text) => ofText path text

theorem run_load (path : Bytes) (w : Workspace) :
    ((load path).run.run w).1 = loaded w path ∧ Kept w ((load path).run.run w).2 := by
  rw [load, run_bind, run_lift]
  dsimp only
  rw [run_bind, run_adapt, Workspace.run_readFile]
  have same : ((Workspace.debug "loading configuration" [("path", .text path)]).run w).2.tree.lookup
      ((Workspace.debug "loading configuration" [("path", .text path)]).run w).2.cwd path =
      w.tree.lookup w.cwd path := rfl
  rw [same, loaded]
  rcases w.tree.lookup w.cwd path with _ | ⟨_, _ | ⟨_, text⟩⟩
  · exact ⟨rfl, rfl, rfl⟩
  · exact ⟨rfl, rfl, rfl⟩
  · dsimp only [Except.mapError]
    rw [ofText]
    cases Document.Format.ofFile? path with
    | none => exact ⟨rfl, rfl, rfl⟩
    | some format =>
      dsimp only
      cases Document.parse format text with
      | error e => exact ⟨rfl, rfl, rfl⟩
      | ok parsed =>
        dsimp only
        rcases (parsed.placed path).validate with ⟨c, _ | e⟩
        · exact ⟨rfl, rfl, rfl⟩
        · exact ⟨rfl, rfl, rfl⟩

theorem ofText_ok_iff : ofText path text = .ok c ↔ ∃ format parsed,
    Document.Format.ofFile? path = some format ∧ Document.parse format text = .ok parsed ∧
      (parsed.placed path).validate = (c, none) := by
  unfold ofText
  constructor
  · intro reads
    split at reads
    · cases reads
    rename_i format told
    split at reads
    · cases reads
    rename_i parsed parses
    split at reads
    · cases reads
    rename_i accepted
    cases reads
    exact ⟨format, parsed, told, parses, accepted⟩
  · rintro ⟨format, parsed, told, parses, accepted⟩
    simp only [told, parses, accepted]

theorem loaded_ok_iff : loaded w path = .ok c ↔ ∃ l mode text,
    w.tree.lookup w.cwd path = .ok (l, .file mode text) ∧ ofText path text = .ok c := by
  unfold loaded
  rcases w.tree.lookup w.cwd path with _ | ⟨_, _ | ⟨_, _⟩⟩
  · simp
  · simp
  · dsimp only
    constructor
    · intro reads
      exact ⟨_, _, _, rfl, reads⟩
    · rintro ⟨_, _, _, found, reads⟩
      cases found
      exact reads

end Retouch.Config
