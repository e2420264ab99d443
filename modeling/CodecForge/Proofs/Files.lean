/-
  CodecForge — files that are written and read again.

  * `Writable` says that a text can be written at a path: a file is there already, or nothing,
    in a directory;
  * writing a text leaves directories where they are (`at_put_of_directory`), so the way to the
    path stays open (`follow_put`);
  * `Writable.exists_write`: what is written at a path is read there, with its line breaks unified.
-/
import CodecForge.Files

namespace CodecForge.Files

variable {files files' : Files} {p : Path} {here : List String} {text : String}

/-- A text can be written at the path: there is a file, or nothing in a directory. -/
structure Writable (files : Files) (p : Path) : Prop where
  name : isBadName p = false
  place : (∃ text, files.find p = .file text) ∨
    (files.find p = .missing ∧ files.find { p with parts := p.parts.dropLast } = .directory)

/-! ## Locations -/

theorem at_put_self (here : List String) (text : String) (files : Files) :
    at_ (Entries.put here text files) here = .file text := by
  rw [at_, Entries.get?_put_self]

/-- A text that is written where no directory is leaves the directories where they are. -/
theorem at_put_of_directory {dir : List String} (hdir : files.at_ dir = .directory)
    (hhere : files.at_ here ≠ .directory) (text : String) :
    at_ (Entries.put here text files) dir = .directory := by
  have hne : here ≠ dir := fun heq => hhere (heq ▸ hdir)
  unfold at_ at hdir ⊢
  rw [Entries.get?_put_of_ne hne]
  cases hget : Entries.get? dir files with
  | some t =>
    rw [hget] at hdir
    cases hdir
  | none =>
    rw [hget] at hdir
    dsimp only at hdir ⊢
    split at hdir
    · next hgiven =>
      rw [if_pos]
      rw [Bool.or_eq_true, List.any_eq_true] at hgiven ⊢
      refine hgiven.imp_right fun ⟨f, hf, hpre⟩ => ?_
      have hkey := (Entries.keys_prefix_put here text files).subset (List.mem_map_of_mem hf)
      obtain ⟨f', hf', heq⟩ := List.mem_map.1 hkey
      exact ⟨f', hf', heq ▸ hpre⟩
    · cases hdir

/-! ## The way to a location -/

theorem follow_concat (files : Files) (here ps : List String) (q : String) :
    files.follow here (ps ++ [q]) =
      match files.follow here ps with
      | .file _ | .blocked => .blocked
      | .missing => .missing
      | .tooLong => .tooLong
      | .directory =>
        if q.utf8ByteSize > longestName then .tooLong
        else files.at_ (step (ps.foldl step here) q) := by
  induction ps generalizing here with
  | nil => rfl
  | cons p ps ih =>
    rw [List.cons_append, follow, follow]
    cases files.at_ here with
    | directory =>
      dsimp only
      split
      · rfl
      · exact ih (step here p)
    | file _ | blocked | missing | tooLong => rfl

theorem follow_directory (hdirs : ∀ dir, files.at_ dir = .directory → files'.at_ dir = .directory)
    {ps : List String} (h : files.follow here ps = .directory) :
    files'.follow here ps = .directory := by
  induction ps generalizing here with
  | nil => exact hdirs here h
  | cons p ps ih =>
    unfold follow at h ⊢
    cases hhere : files.at_ here with
    | directory =>
      rw [hhere] at h
      rw [hdirs here hhere]
      dsimp only at h ⊢
      split at h
      · cases h
      · next hlong =>
        rw [if_neg hlong]
        exact ih h
    | file _ | blocked | missing | tooLong =>
      rw [hhere] at h
      cases h

/-- After a text is written in a directory, the way there leads to it. -/
theorem follow_put {ps : List String} {q : String} (hps : files.follow here ps = .directory)
    (hq : ¬ q.utf8ByteSize > longestName)
    (hat : files.at_ (step (ps.foldl step here) q) ≠ .directory) (text : String) :
    follow (Entries.put (step (ps.foldl step here) q) text files) here (ps ++ [q]) =
      .file text := by
  rw [follow_concat, follow_directory (fun dir hdir => at_put_of_directory hdir hat text) hps]
  dsimp only
  rw [if_neg hq, at_put_self]

/-! ## Writing and reading -/

theorem location_dropLast (h : p.parts ≠ []) :
    ({ p with parts := p.parts.dropLast } : Path).location = p.location.dropLast := by
  unfold Path.location
  dsimp only
  split
  · rfl
  · rw [List.dropLast_cons_of_ne_nil h]

theorem follow_of_find_directory (h : files.find p = .directory) :
    files.follow [] p.location = .directory := by
  unfold find at h
  split at h
  · cases h
  · split at h
    · cases h
    · exact h

theorem find_eq_follow (hname : isBadName p = false)
    (hlong : ¬ p.text.utf8ByteSize > longestPath) :
    files.find p = files.follow [] p.location := by
  rw [find, hname, if_neg hlong]
  rfl

/-- The way to a path at which a text can be written leads through directories, and ends where
    no directory is. -/
theorem Writable.way (h : files.Writable p) {ps : List String} {q : String}
    (hlocation : p.location = ps ++ [q]) (hfind : files.find p = files.follow [] p.location) :
    files.follow [] ps = .directory ∧ ¬ q.utf8ByteSize > longestName ∧
      files.at_ (step (ps.foldl step []) q) ≠ .directory := by
  rw [hlocation, follow_concat] at hfind
  rcases h.place with ⟨t, hfile⟩ | ⟨hmissing, hparent⟩
  · rw [hfile] at hfind
    cases hps : files.follow [] ps with
    | directory =>
      rw [hps] at hfind
      dsimp only at hfind
      split at hfind
      · cases hfind
      · next hq => exact ⟨rfl, hq, hfind ▸ nofun⟩
    | file _ | blocked | missing | tooLong =>
      rw [hps] at hfind
      cases hfind
  · have hparts : p.parts ≠ [] := by
      intro hnil
      have hself : ({ p with parts := p.parts.dropLast } : Path) = p := by
        rw [hnil, List.dropLast_nil, ← hnil]
      rw [hself, hmissing] at hparent
      cases hparent
    have hps := follow_of_find_directory hparent
    rw [location_dropLast hparts, hlocation, List.dropLast_concat] at hps
    rw [hmissing, hps] at hfind
    dsimp only at hfind
    split at hfind
    · cases hfind
    · next hq => exact ⟨hps, hq, hfind ▸ nofun⟩

theorem find_put (h : files.Writable p) (text : String) :
    find (Entries.put (resolved p) text files) p = .file text := by
  have hlong : ¬ p.text.utf8ByteSize > longestPath := by
    intro hlong
    have hfind : files.find p = .tooLong := by rw [find, h.name, if_pos hlong]; rfl
    rcases h.place with ⟨t, hfile⟩ | ⟨hmissing, -⟩
    · rw [hfind] at hfile
      cases hfile
    · rw [hfind] at hmissing
      cases hmissing
  rw [find_eq_follow h.name hlong, resolved]
  rcases List.eq_nil_or_concat p.location with hnil | ⟨ps, q, hlocation⟩
  · rw [hnil]
    exact at_put_self [] text files
  · rw [List.concat_eq_append] at hlocation
    obtain ⟨hps, hq, hat⟩ := h.way hlocation (find_eq_follow h.name hlong)
    rw [hlocation, List.foldl_append]
    exact follow_put hps hq hat text

end CodecForge.Files
