import AeroxeBee.Admin.Releases

/-!
# Old files of the app

Every minute the server removes the files of the app that were uploaded more than a week ago. The
routine looks at the directory only; which releases the files belong to it does not know.

* `exec_cleanEntries`: what the loop over the files leaves of the directory;
* `keepsDownloads_iff`: when no file that a release needs is removed.
-/

namespace AeroxeBee.Admin

open Foundations

/-! ## The directory -/

/-- A file or a directory, with the time at which it was last written. -/
structure DirEntry where
  name : String
  isDir : Bool
  modTime : ℤ
deriving DecidableEq

/-- What a directory contains, under different names. -/
structure Folder where
  entries : List DirEntry
  nodup : (entries.map (·.name)).Nodup

namespace Folder

/-- The directory without a file. -/
def remove (f : Folder) (name : String) : Folder where
  entries := f.entries.filter (·.name ≠ name)
  nodup := f.nodup.sublist (List.filter_sublist.map _)

theorem mem_remove {f : Folder} {name : String} {x : DirEntry} :
    x ∈ (f.remove name).entries ↔ x ∈ f.entries ∧ x.name ≠ name := by
  simp [remove]

theorem eq_of_name {f : Folder} {x y : DirEntry} (hx : x ∈ f.entries) (hy : y ∈ f.entries)
    (h : x.name = y.name) : x = y :=
  List.inj_on_of_nodup_map f.nodup hx hy h

theorem find?_name {f : Folder} {x : DirEntry} (hx : x ∈ f.entries) :
    f.entries.find? (·.name = x.name) = some x := by
  cases hfind : f.entries.find? (·.name = x.name) with
  | none => exact absurd (decide_eq_true rfl) (List.find?_eq_none.1 hfind x hx)
  | some y =>
    have hname : y.name = x.name := by simpa using List.find?_some hfind
    rw [eq_of_name (List.mem_of_find?_eq_some hfind) hx hname]

end Folder

/-- Why a directory cannot be listed. -/
inductive ReadErr where
  | notExist
  | other (text : String)

/-- What the routine asks of the file system. -/
inductive FileCmd : Type → Type 1
  | readDir : FileCmd (Except ReadErr (List DirEntry))
  /-- The time at which a file was last written. -/
  | info (name : String) : FileCmd (Except String ℤ)
  /-- The time at which the age of a file is computed. -/
  | now (name : String) : FileCmd ℤ
  | remove (name : String) : FileCmd (Except String Unit)

/-- What the operating system contributes: which calls fail, and when the routine comes to a file. -/
structure FileSystem where
  readFault : Option String
  infoFault : String → Option String
  removeFault : String → Option String
  checkedAt : String → ℤ

/-- What the calls do to the directory, if there is one. -/
def disk (fs : FileSystem) : Sem FileCmd (Option Folder) where
  step
    | .readDir, s =>
      match fs.readFault, s with
      | some text, _ => (.error (.other text), s)
      | none, none => (.error .notExist, s)
      | none, some f => (.ok f.entries, s)
    | .info name, s =>
      match fs.infoFault name, s.bind fun f => f.entries.find? (·.name = name) with
      | some text, _ => (.error text, s)
      | none, none => (.error "no such file or directory", s)
      | none, some x => (.ok x.modTime, s)
    | .now name, s => (fs.checkedAt name, s)
    | .remove name, s =>
      match fs.removeFault name, s.bind fun f => f.entries.find? (·.name = name) with
      | some text, _ => (.error text, s)
      | none, none => (.error "no such file or directory", s)
      | none, some _ => (.ok (), s.map (·.remove name))

/-! ## The routine -/

/-- Whether a text ends with another. -/
def hasSuffix (s suffix : String) : Bool := suffix.toList.isSuffixOf s.toList

/-- Remove a file of the app if it is older than the given age; how many files were removed. -/
def cleanEntry (maxAge : ℤ) (entry : DirEntry) : Prog FileCmd ℕ :=
  if entry.isDir || !hasSuffix entry.name ".apk" then return 0
  else do
    match ← Prog.call (.info entry.name) with
    | .error _ => return 0
    | .ok modTime =>
      let now ← Prog.call (.now entry.name)
      if maxAge < now - modTime then
        match ← Prog.call (.remove entry.name) with
        | .error _ => return 0
        | .ok _ => return 1
      else return 0

/-- The loop over the files. -/
def cleanEntries (maxAge : ℤ) : List DirEntry → ℕ → Prog FileCmd ℕ
  | [], totalCleaned => return totalCleaned
  | entry :: entries, totalCleaned => do
    let cleaned ← cleanEntry maxAge entry
    cleanEntries maxAge entries (totalCleaned + cleaned)

/-- Remove the old files of the app. -/
def cleanupOldAPKs (maxAge : ℤ) : Prog FileCmd (Except String ℕ) := do
  match ← Prog.call .readDir with
  | .error .notExist => return .ok 0
  | .error (.other text) => return .error text
  | .ok entries =>
    let totalCleaned ← cleanEntries maxAge entries 0
    return .ok totalCleaned

/-! ## What it removes -/

/-- A file of the app whose age the routine finds to be above the bound. -/
def Old (fs : FileSystem) (maxAge : ℤ) (x : DirEntry) : Prop :=
  x.isDir = false ∧ hasSuffix x.name ".apk" = true ∧ fs.infoFault x.name = none ∧
    maxAge < fs.checkedAt x.name - x.modTime

/-- A file that can be removed. -/
def Condemned (fs : FileSystem) (maxAge : ℤ) (x : DirEntry) : Prop :=
  Old fs maxAge x ∧ fs.removeFault x.name = none

instance (fs : FileSystem) (maxAge : ℤ) (x : DirEntry) : Decidable (Condemned fs maxAge x) := by
  unfold Condemned Old
  infer_instance

section Loop

variable (fs : FileSystem) (maxAge : ℤ) {f : Folder} {x : DirEntry}

/-- One file: it is removed and counted, or nothing happens. -/
theorem exec_cleanEntry (hx : x ∈ f.entries) :
    ((cleanEntry maxAge x).exec (disk fs) (some f)).val = (if Condemned fs maxAge x then 1 else 0) ∧
      ((cleanEntry maxAge x).exec (disk fs) (some f)).state =
        some (if Condemned fs maxAge x then f.remove x.name else f) := by
  have hfind : (some f).bind (fun f => f.entries.find? (·.name = x.name)) = some x :=
    Folder.find?_name hx
  unfold cleanEntry
  split_ifs with hskip hcond hcond
  · rcases Bool.or_eq_true _ _ ▸ hskip with hdir | hname
    · exact absurd hcond.1.1 (by simp [hdir])
    · exact absurd hcond.1.2.1 (by simpa using hname)
  · exact ⟨rfl, rfl⟩
  · obtain ⟨⟨-, -, hinfo, hold⟩, hremove⟩ := hcond
    simp [disk, hinfo, hfind, hold, hremove]
  · have hfile : x.isDir = false ∧ hasSuffix x.name ".apk" = true := by simpa using hskip
    cases hinfo : fs.infoFault x.name with
    | some text => simp [disk, hinfo]
    | none =>
      by_cases hold : maxAge < fs.checkedAt x.name - x.modTime
      · cases hremove : fs.removeFault x.name with
        | some text => simp [disk, hinfo, hfind, hold, hremove]
        | none => exact absurd ⟨⟨hfile.1, hfile.2, hinfo, hold⟩, hremove⟩ hcond
      · simp [disk, hinfo, hfind, hold]

/-- **The loop removes the condemned files, and counts them.** -/
theorem exec_cleanEntries {entries : List DirEntry} {n : ℕ} (hsub : ∀ x ∈ entries, x ∈ f.entries)
    (hnodup : (entries.map (·.name)).Nodup) :
    ∃ f' : Folder, ((cleanEntries maxAge entries n).exec (disk fs) (some f)).val =
        n + entries.countP (Condemned fs maxAge ·) ∧
      ((cleanEntries maxAge entries n).exec (disk fs) (some f)).state = some f' ∧
      ∀ x, x ∈ f'.entries ↔ x ∈ f.entries ∧ ¬ (x ∈ entries ∧ Condemned fs maxAge x) := by
  induction entries generalizing f n with
  | nil => exact ⟨f, rfl, rfl, by simp⟩
  | cons y entries ih =>
    obtain ⟨hnot, hrest⟩ := List.nodup_cons.1 hnodup
    have hy : y ∈ f.entries := hsub y List.mem_cons_self
    obtain ⟨hval, hstate⟩ := exec_cleanEntry fs maxAge hy
    let f₁ := if Condemned fs maxAge y then f.remove y.name else f
    have hf₁ : ∀ x, x ∈ f₁.entries ↔ x ∈ f.entries ∧ ¬ (x = y ∧ Condemned fs maxAge y) := by
      intro x
      by_cases hcond : Condemned fs maxAge y
      · simp only [f₁, hcond, if_true, and_true, Folder.mem_remove]
        refine and_congr_right fun hx => not_congr ⟨fun h => Folder.eq_of_name hx hy h, ?_⟩
        rintro rfl
        rfl
      · simp [f₁, hcond]
    have hne : ∀ x ∈ entries, x ≠ y := by
      rintro x hx rfl
      exact hnot (List.mem_map_of_mem hx)
    obtain ⟨f', hcount, hafter, hf'⟩ := ih (f := f₁) (n := n + if Condemned fs maxAge y then 1 else 0)
      (fun x hx => (hf₁ x).2 ⟨hsub x (List.mem_cons_of_mem _ hx), fun h => hne x hx h.1⟩) hrest
    refine ⟨f', ?_, ?_, fun x => ?_⟩
    · rw [cleanEntries, Prog.exec_bind, hval, hstate, hcount, List.countP_cons]
      simp only [decide_eq_true_eq]
      rw [Nat.add_assoc, Nat.add_comm (if Condemned fs maxAge y then 1 else 0)]
    · rw [cleanEntries, Prog.exec_bind, hval, hstate, hafter]
    · rw [hf', hf₁, List.mem_cons]
      constructor
      · rintro ⟨⟨hx, hnoty⟩, hnotin⟩
        refine ⟨hx, ?_⟩
        rintro ⟨rfl | hmem, hcond⟩
        · exact hnoty ⟨rfl, hcond⟩
        · exact hnotin ⟨hmem, hcond⟩
      · rintro ⟨hx, hnot'⟩
        refine ⟨⟨hx, ?_⟩, fun h => hnot' ⟨.inr h.1, h.2⟩⟩
        rintro ⟨rfl, hcond⟩
        exact hnot' ⟨.inl rfl, hcond⟩

end Loop

/-! ## Files that releases need -/

/-- A release that has not been rejected names the file. -/
def Referenced (releases : List AppRelease) (name : String) : Prop :=
  ∃ a ∈ releases, a.status ≠ .rejected ∧ a.apkFilename = name

instance (releases : List AppRelease) (name : String) : Decidable (Referenced releases name) := by
  unfold Referenced
  infer_instance

/-- What is in the directory, if there is one. -/
def contents (s : Option Folder) : List DirEntry := s.elim [] Folder.entries

/-- Every file that a release needs is still there, and only files that no release needs and that are
older than the bound have been removed. -/
structure KeepsDownloads (fs : FileSystem) (maxAge : ℤ) (releases : List AppRelease)
    (s : Option Folder) : Prop where
  kept : ∀ x ∈ contents s, Referenced releases x.name →
    x ∈ contents ((cleanupOldAPKs maxAge).exec (disk fs) s).state
  removed : ∀ x ∈ contents s, x ∉ contents ((cleanupOldAPKs maxAge).exec (disk fs) s).state →
    ¬ Referenced releases x.name ∧ Old fs maxAge x
  unchanged : ∀ x ∈ contents ((cleanupOldAPKs maxAge).exec (disk fs) s).state, x ∈ contents s

/-- The directory cannot be listed, or no file that a release needs is condemned. -/
def SparesReferenced (fs : FileSystem) (maxAge : ℤ) (releases : List AppRelease)
    (s : Option Folder) : Prop :=
  fs.readFault.isSome = true ∨
    ∀ x ∈ contents s, Referenced releases x.name → ¬ Condemned fs maxAge x

/-- What the routine leaves of the directory. -/
theorem mem_cleanup (fs : FileSystem) (maxAge : ℤ) (s : Option Folder) (x : DirEntry) :
    x ∈ contents ((cleanupOldAPKs maxAge).exec (disk fs) s).state ↔
      x ∈ contents s ∧ ¬ (fs.readFault = none ∧ Condemned fs maxAge x) := by
  unfold cleanupOldAPKs
  rw [Prog.call_bind, Prog.exec_act]
  cases hread : fs.readFault with
  | some text => simp [disk, hread]
  | none =>
    cases s with
    | none => simp [disk, hread, contents]
    | some f =>
      obtain ⟨f', -, hafter, hf'⟩ := exec_cleanEntries fs maxAge (n := 0) (fun x hx => hx) f.nodup
      have hlisted : (disk fs).step .readDir (some f) = (.ok f.entries, some f) := by
        simp [disk, hread]
      simp only [hlisted, Prog.exec_bind, hafter, Prog.pure_eq, Prog.exec_ret]
      refine (hf' x).trans (and_congr_right fun hx => not_congr (and_congr_left fun _ => ?_))
      exact iff_of_true hx trivial

/-- **The files that releases need survive the cleanup** exactly when none of them is old, can be
looked at and can be removed. -/
theorem keepsDownloads_iff (fs : FileSystem) (maxAge : ℤ) (releases : List AppRelease)
    (s : Option Folder) :
    KeepsDownloads fs maxAge releases s ↔ SparesReferenced fs maxAge releases s := by
  constructor
  · intro h
    cases hread : fs.readFault with
    | some text => exact .inl (by rw [hread]; rfl)
    | none =>
      refine .inr fun x hx hreferenced hcond => ?_
      exact ((mem_cleanup fs maxAge s x).1 (h.kept x hx hreferenced)).2 ⟨hread, hcond⟩
  · intro h
    have hspared : ∀ x ∈ contents s, Referenced releases x.name →
        ¬ (fs.readFault = none ∧ Condemned fs maxAge x) := by
      rintro x hx hreferenced ⟨hread, hcond⟩
      rcases h with hfault | hall
      · rw [hread] at hfault
        cases hfault
      · exact hall x hx hreferenced hcond
    refine ⟨fun x hx hreferenced => ?_, fun x hx hgone => ?_, fun x hx => ?_⟩
    · exact (mem_cleanup fs maxAge s x).2 ⟨hx, hspared x hx hreferenced⟩
    · have hcond : fs.readFault = none ∧ Condemned fs maxAge x := by
        by_contra hnot
        exact hgone ((mem_cleanup fs maxAge s x).2 ⟨hx, hnot⟩)
      exact ⟨fun hreferenced => hspared x hx hreferenced hcond, hcond.2.1⟩
    · exact ((mem_cleanup fs maxAge s x).1 hx).1

/-! ## The release that is out -/

/-- A file of the app that was uploaded at time 0. -/
def uploaded : DirEntry := ⟨"app-v1.0-0.apk", false, 0⟩

/-- The release that it belongs to, which is out. -/
def uploadedRelease : AppRelease :=
  { draftRelease 1 "1.0" with
    id := "release-1"
    apkURL := "/api/v1/uploads/apks/app-v1.0-0.apk"
    apkFilename := "app-v1.0-0.apk"
    status := .released }

/-- Nothing fails, and every file is looked at one nanosecond after seven days. -/
def afterAWeek : FileSystem where
  readFault := none
  infoFault _ := none
  removeFault _ := none
  checkedAt _ := 604800000000001

/-- A week after its upload the file of the release that is out is removed. -/
theorem released_removed :
    uploadedRelease.status = .released ∧
      contents ((cleanupOldAPKs 604800000000000).exec (disk afterAWeek)
        (some ⟨[uploaded], by decide⟩)).state = [] ∧
      ¬ KeepsDownloads afterAWeek 604800000000000 [uploadedRelease]
        (some ⟨[uploaded], by decide⟩) := by
  have hgone : contents ((cleanupOldAPKs 604800000000000).exec (disk afterAWeek)
      (some ⟨[uploaded], by decide⟩)).state = [] := by decide
  refine ⟨rfl, hgone, fun h => ?_⟩
  have hkept := h.kept uploaded (List.mem_singleton_self _)
    ⟨uploadedRelease, List.mem_singleton_self _, by decide, rfl⟩
  rw [hgone] at hkept
  cases hkept

end AeroxeBee.Admin
