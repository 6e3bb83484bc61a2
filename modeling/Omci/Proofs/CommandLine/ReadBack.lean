import Omci.CommandLine.Directory
import Omci.CommandLine.Run

/-!
# Files that read back as written

Whether a run can trust a file that it has just written is up to the place
where files are kept. `Files.ReadsBack` says so as an equation between two
steps, so that it means the same in every monad: reading behind a write that
succeeded gives the octets of the text, and changes nothing.

Directories in memory read back whatever is written to them. The file that is
written may take the place of another one and makes folders of the places on
its way, but no folder ceases to be one, so every path that led to a place
before leads there still.
-/

namespace Omci.CommandLine

section

variable {m : Type → Type} [Monad m]

/-- What the path holds behind a write is the text that was written. -/
def Files.ReadsBack (files : Files m) (path text : String) : Prop :=
  (do
    Step.orFail (Failure.fileNotMade path) (files.write path text)
    readFile files path : Step m ByteArray) =
  (do
    Step.orFail (Failure.fileNotMade path) (files.write path text)
    return text.toUTF8)

theorem Step.run_orFail [LawfulMonad m] {α : Type} (failure : SystemError → Failure)
    (action : m (Except SystemError α)) :
    (Step.orFail failure action).run = Except.mapError failure <$> action := by
  rw [Step.orFail, ExceptT.run_bind, map_eq_pure_bind]
  show ((Except.ok <$> action) >>= fun result => _) = _
  rw [bind_map_left]
  refine bind_congr fun result => ?_
  cases result with
  | ok a => rfl
  | error e => rfl

end

namespace Directory

/-- Every folder is still a folder. -/
def KeepsFolders (d changed : Directory) : Prop :=
  ∀ place, d.isFolder place = true → changed.isFolder place = true

theorem KeepsFolders.walk {d changed : Directory} (h : d.KeepsFolders changed)
    {place goal : Place} {parts : List (List Char)}
    (hwalk : d.walk place parts = .ok goal) :
    changed.walk place parts = .ok goal := by
  induction parts generalizing place with
  | nil => exact hwalk
  | cons part rest ih =>
    rw [Directory.walk] at hwalk ⊢
    split at hwalk
    · next hfolder =>
      rw [if_pos (h place hfolder)]
      split at hwalk
      · next hstay => rw [if_pos hstay]; exact ih hwalk
      · next hstay =>
        rw [if_neg hstay]
        split at hwalk
        · next haround => rw [if_pos haround]; exact ih hwalk
        · next haround =>
          rw [if_neg haround]
          split at hwalk
          · cases hwalk
          · next hname => rw [if_neg hname]; exact ih hwalk
    · split at hwalk <;> cases hwalk

theorem KeepsFolders.place? {d changed : Directory} (h : d.KeepsFolders changed)
    {path : String} {place : Place} (hplace : d.place? path = .ok place) :
    changed.place? path = .ok place := by
  unfold Directory.place? at hplace ⊢
  split at hplace
  · cases hplace
  · next hempty =>
    rw [if_neg hempty]
    split at hplace
    · cases hplace
    · next hlong =>
      rw [if_neg hlong]
      exact h.walk hplace

/-- The directory with the text at the place. -/
def holding (d : Directory) (place : Place) (text : String) : Directory :=
  { d with files := (place, text) :: d.files.filter (·.1 ≠ place) }

theorem write_eq_ok {d changed : Directory} {path text : String}
    (h : d.write path text = .ok changed) :
    ∃ place, d.place? path = .ok place ∧ d.isFolder place = false ∧
      changed = d.holding place text := by
  unfold Directory.write at h
  split at h
  · cases h
  · cases hplace : d.place? path with
    | error e =>
      rw [hplace] at h
      cases h
    | ok place =>
      rw [hplace] at h
      cases hfolder : d.isFolder place with
      | true =>
        simp only [hfolder, bind, Except.bind] at h
        cases h
      | false =>
        simp only [hfolder, bind, Except.bind] at h
        cases h
        exact ⟨place, rfl, hfolder, rfl⟩

theorem keepsFolders_holding (d : Directory) (place : Place) (text : String) :
    d.KeepsFolders (d.holding place text) := by
  intro folder h
  simp only [isFolder, Bool.or_eq_true, List.any_eq_true, Bool.and_eq_true] at h ⊢
  rcases h with h | ⟨entry, hentry, hbelow, hproper⟩
  · exact .inl h
  · right
    by_cases heq : entry.1 = place
    · exact ⟨(place, text), List.mem_cons_self, heq ▸ hbelow, heq ▸ hproper⟩
    · refine ⟨entry, List.mem_cons_of_mem _ (List.mem_filter.2 ⟨hentry, ?_⟩),
        hbelow, hproper⟩
      exact decide_eq_true heq

theorem isFolder_holding_self {d : Directory} {place : Place} (h : d.isFolder place = false)
    (text : String) : (d.holding place text).isFolder place = false := by
  simp only [isFolder, Bool.or_eq_false_iff] at h ⊢
  refine ⟨h.1, ?_⟩
  rw [holding, List.any_cons, Bool.or_eq_false_iff]
  refine ⟨by simp, List.any_eq_false.2 fun entry hentry => ?_⟩
  exact List.any_eq_false.1 h.2 entry (List.mem_filter.1 hentry).1

theorem read_of_write {d changed : Directory} {path text : String}
    (h : d.write path text = .ok changed) : changed.read path = .ok text.toUTF8 := by
  obtain ⟨place, hplace, hfolder, rfl⟩ := write_eq_ok h
  have hthere := (d.keepsFolders_holding place text).place? hplace
  have hfile : (d.holding place text).file? place = some text := by
    rw [file?, holding, List.lookup_cons_self]
  unfold Directory.read
  simp only [hthere, isFolder_holding_self hfolder text, hfile, bind, Except.bind]
  rfl

theorem store_write (time path text : String) (d : Directory) :
    (store time).write path text d =
      match d.write path text with
      | .ok changed => (.ok (), changed)
      | .error e => (.error e, d) := by
  show change (fun d => d.write path text) d = _
  unfold change
  show (match d.write path text with
    | .ok changed => _
    | .error e => _ : StateM Directory _) d = _
  cases d.write path text <;> rfl

theorem readsBack_store (time path text : String) : (store time).ReadsBack path text := by
  refine ExceptT.ext (funext fun d => ?_)
  simp only [readFile, ExceptT.run_bind, Step.run_orFail, ExceptT.run_pure]
  have hbehind : ∀ {α : Type} (rest : Except Failure Unit → StateM Directory α),
      (Except.mapError (Failure.fileNotMade path) <$> (store time).write path text >>= rest)
        d =
        rest (((store time).write path text d).1.mapError (Failure.fileNotMade path))
          ((store time).write path text d).2 := fun _ => rfl
  rw [hbehind, hbehind, store_write]
  cases h : d.write path text with
  | error e => rfl
  | ok changed =>
    show (Except.mapError (Failure.notRead path) (changed.read path), changed) = _
    rw [read_of_write h]
    rfl

end Directory

end Omci.CommandLine
