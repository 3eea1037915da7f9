import GatewayProvisioning.Files.Effect
import GatewayProvisioning.Proofs.Results

/-!
# What stands on a disk

Where a path leads depends on folders alone, so a path leads on to the same place as long as no folder
gives way. Creating folders takes nothing away: folders come where nothing stood.
-/

namespace GatewayProvisioning

namespace Disk

variable {d d' last : Disk}

/-! ## Entries -/

theorem lookup_putEntry (l k : Location) (e : Entry) (entries : List (Location × Entry)) :
    (putEntry l e entries).lookup k = if k = l then some e else entries.lookup k := by
  induction entries with
  | nil =>
    by_cases hk : k = l
    · simp [putEntry, hk]
    · simp [putEntry, hk, List.lookup_cons, beq_eq_false_iff_ne.mpr hk]
  | cons entry rest ih =>
    obtain ⟨m, f⟩ := entry
    unfold putEntry
    by_cases hm : l = m
    · subst hm
      rw [if_pos rfl, List.lookup_cons, List.lookup_cons]
      by_cases hk : k = l
      · simp [hk]
      · rw [beq_eq_false_iff_ne.mpr hk, if_neg hk]
    · rw [if_neg hm, List.lookup_cons, List.lookup_cons, ih]
      by_cases hk : k = m
      · have hne : k ≠ l := fun h => hm (h.symm.trans hk)
        rw [if_neg hne, if_neg hne]
      · rw [beq_eq_false_iff_ne.mpr hk]

theorem get?_put (d : Disk) (l k : Location) (e : Entry) :
    (d.put l e).get? k = if k = l then some e else d.get? k :=
  lookup_putEntry l k e d.entries

@[simp] theorem get?_put_self (d : Disk) (l : Location) (e : Entry) : (d.put l e).get? l = some e := by
  rw [get?_put, if_pos rfl]

theorem get?_put_other (d : Disk) {l k : Location} (h : k ≠ l) (e : Entry) :
    (d.put l e).get? k = d.get? k := by
  rw [get?_put, if_neg h]

theorem putEntry_putEntry (l : Location) (e e' : Entry) (entries : List (Location × Entry)) :
    putEntry l e' (putEntry l e entries) = putEntry l e' entries := by
  induction entries with
  | nil => simp [putEntry]
  | cons entry rest ih =>
    obtain ⟨m, f⟩ := entry
    by_cases hm : l = m
    · simp [putEntry, hm]
    · simp [putEntry, hm, ih]

@[simp] theorem put_put (d : Disk) (l : Location) (e e' : Entry) :
    (d.put l e).put l e' = d.put l e' :=
  congrArg (fun entries => { d with entries }) (putEntry_putEntry l e e' d.entries)

theorem putEntry_of_lookup {l : Location} {e : Entry} {entries : List (Location × Entry)}
    (h : entries.lookup l = some e) : putEntry l e entries = entries := by
  induction entries with
  | nil => cases h
  | cons entry rest ih =>
    obtain ⟨m, f⟩ := entry
    unfold putEntry
    by_cases hm : l = m
    · subst hm
      rw [List.lookup_cons, beq_self_eq_true] at h
      cases h
      rw [if_pos rfl]
    · rw [List.lookup_cons, beq_eq_false_iff_ne.mpr hm] at h
      rw [if_neg hm, ih h]

theorem refuses_put (d : Disk) (l : Location) (e : Entry) : (d.put l e).refuses = d.refuses :=
  rfl

/-- To put what is there already changes nothing. -/
theorem put_of_get? {l : Location} {e : Entry} (h : d.get? l = some e) : d.put l e = d :=
  congrArg (fun entries => { d with entries }) (putEntry_of_lookup h)

/-! ## Ways -/

/-- All folders of one disk are folders of another. -/
def KeepsFolders (d last : Disk) : Prop :=
  ∀ l, d.get? l = some .folder → last.get? l = some .folder

theorem keepsFolders_put {l : Location} (h : d.get? l ≠ some .folder) (e : Entry) :
    KeepsFolders d (d.put l e) := by
  intro k hk
  rw [get?_put_other d ?_ e, hk]
  rintro rfl
  exact h hk

/-- A step leads on from folders only. -/
theorem get?_of_step {here next : Location} {name : String} (h : d.step here name = .ok next) :
    d.get? here = some .folder := by
  unfold step at h
  split at h
  · cases h
  · assumption
  · cases h

theorem KeepsFolders.step (h : KeepsFolders d last) {here next : Location} {name : String}
    (hstep : d.step here name = .ok next) : last.step here name = .ok next := by
  have hhere := get?_of_step hstep
  unfold Disk.step at hstep ⊢
  rw [hhere] at hstep
  rw [h here hhere]
  exact hstep

theorem walk_cons (d : Disk) (here : Location) (name : String) (names : List String) :
    d.walk here (name :: names) = (d.step here name).bind fun next => d.walk next names :=
  List.foldlM_cons

/-- Where folders are kept, every way is. -/
theorem KeepsFolders.walk (h : KeepsFolders d last) {start place : Location} {names : List String}
    (hwalk : d.walk start names = .ok place) : last.walk start names = .ok place := by
  induction names generalizing start with
  | nil => exact hwalk
  | cons name names ih =>
    rw [walk_cons] at hwalk ⊢
    rcases hstep : d.step start name with error | next
    · rw [hstep] at hwalk
      cases hwalk
    · rw [hstep] at hwalk
      rw [h.step hstep]
      exact ih hwalk

/-- To stay is to stand on a folder. -/
theorem eq_of_stay {here place : Location} (h : d.step here "." = .ok place) : place = here := by
  have hhere := get?_of_step h
  unfold step at h
  rw [hhere] at h
  cases h
  rfl

theorem walk_concat (d : Disk) (start : Location) (names : List String) (name : String) :
    d.walk start (names ++ [name]) = (d.walk start names).bind fun here => d.step here name := by
  unfold walk
  rw [List.foldlM_append]
  refine congrArg _ (funext fun here => ?_)
  rw [List.foldlM_cons]
  exact bind_pure _

/-- A way to a place where a file may be created: all but the last step lead to a folder, and the
last one is a name in it. -/
theorem walkNew_eq_ok {start place : Location} {names : List String} {slash : Bool}
    (h : d.walkNew start names slash = .ok place) :
    slash = false ∧ ∃ above folder name, names = above ++ [name] ∧
      d.walk start above = .ok folder ∧ d.step folder name = .ok place := by
  obtain ⟨folder, hfolder, h⟩ := exists_of_bind_eq_ok h
  rw [walk_concat] at hfolder
  obtain ⟨here, hhere, hstay⟩ := exists_of_bind_eq_ok hfolder
  -- the step that stays only asks for a folder
  obtain rfl := eq_of_stay hstay
  rcases hlast : names.getLast? with _ | name
  · rw [hlast] at h
    cases h
  · rw [hlast] at h
    by_cases hrefused : slash = true ∨ name = "." ∨ name = ".."
    · simp only [if_pos hrefused] at h
      cases h
    · simp only [if_neg hrefused] at h
      have hslash : slash = false := by
        simpa using (not_or.mp hrefused).1
      have hnames : names = names.dropLast ++ [name] :=
        (List.dropLast_append_getLast? name hlast).symm
      exact ⟨hslash, names.dropLast, folder, name, hnames, hhere, h⟩

/-- A path that leads to a place for a new file leads there. -/
theorem locate_of_locateNew {path : String} {place : Location}
    (h : d.locateNew path = .ok place) : d.locate path = .ok place := by
  obtain ⟨⟨⟩, hcheck, h⟩ := exists_of_bind_eq_ok h
  obtain ⟨hslash, above, folder, name, hnames, hfolder, hname⟩ :=
    walkNew_eq_ok (mapError_eq_ok.mp h)
  have hwalk : d.walk (beginning path) (Path.steps path) = .ok place := by
    rw [hnames, walk_concat, hfolder]
    exact hname
  unfold locate
  rw [hcheck, hwalk, hslash]
  rfl

theorem KeepsFolders.locate (h : KeepsFolders d last) {path : String} {place : Location}
    (hlocate : d.locate path = .ok place) : last.locate path = .ok place := by
  obtain ⟨⟨⟩, hcheck, hlocate⟩ := exists_of_bind_eq_ok hlocate
  obtain ⟨here, hwalk, hplace⟩ := exists_of_bind_eq_ok hlocate
  have hwalk' := h.walk (mapError_eq_ok.mp hwalk)
  unfold Disk.locate
  rw [hcheck, hwalk']
  by_cases hslash : Path.endsInSlash path = true
  · rw [if_pos hslash] at hplace
    have hstay := h.step (mapError_eq_ok.mp hplace)
    simp only [if_pos hslash]
    exact mapError_eq_ok.mpr hstay
  · rw [if_neg hslash] at hplace
    simp only [if_neg hslash]
    exact hplace

/-! ## Places -/

/-- The location that a step leads to from a folder. -/
def stepPlace (here : Location) (name : String) : Location :=
  if name = "." then here else if name = ".." then here.above else here ++ [name]

/-- The location that a path leads to, if it leads anywhere. -/
def place (path : String) : Location :=
  (Path.steps path).foldl stepPlace (beginning path)

theorem eq_stepPlace {here next : Location} {name : String} (h : d.step here name = .ok next) :
    next = stepPlace here name := by
  have hhere := get?_of_step h
  unfold step at h
  rw [hhere] at h
  unfold stepPlace
  split_ifs at h ⊢ <;> cases h <;> rfl

theorem eq_foldl_stepPlace {start next : Location} {names : List String}
    (h : d.walk start names = .ok next) : next = names.foldl stepPlace start := by
  induction names generalizing start with
  | nil =>
    cases h
    rfl
  | cons name names ih =>
    rw [walk_cons] at h
    obtain ⟨here, hstep, h⟩ := exists_of_bind_eq_ok h
    rw [List.foldl_cons, ← eq_stepPlace hstep]
    exact ih h

/-- Where a path leads does not depend on the disk, if it leads anywhere. -/
theorem eq_place {path : String} {l : Location} (h : d.locate path = .ok l) : l = place path := by
  obtain ⟨⟨⟩, -, h⟩ := exists_of_bind_eq_ok h
  obtain ⟨here, hwalk, h⟩ := exists_of_bind_eq_ok h
  have hhere := eq_foldl_stepPlace (mapError_eq_ok.mp hwalk)
  by_cases hslash : Path.endsInSlash path = true
  · rw [if_pos hslash] at h
    exact (eq_of_stay (mapError_eq_ok.mp h)).trans hhere
  · rw [if_neg hslash] at h
    cases h
    exact hhere

/-! ## New folders -/

/-- At a location all is as before, or there is a folder where nothing was. -/
def KeptAt (d last : Disk) (l : Location) : Prop :=
  last.get? l = d.get? l ∨ d.get? l = none ∧ last.get? l = some .folder

/-- Nothing has changed but that folders have come. -/
def GainsFolders (d last : Disk) : Prop :=
  ∀ l, KeptAt d last l

theorem KeptAt.trans {l : Location} (h : KeptAt d d' l) (h' : KeptAt d' last l) :
    KeptAt d last l := by
  rcases h with hsame | ⟨hnone, hfolder⟩
  · unfold KeptAt
    rw [← hsame]
    exact h'
  · rcases h' with hsame' | ⟨hnone', -⟩
    · exact .inr ⟨hnone, hsame'.trans hfolder⟩
    · rw [hfolder] at hnone'
      cases hnone'

/-- What stood at a location is still there. -/
theorem KeptAt.of_some {l : Location} {e : Entry} (h : KeptAt d last l) (he : d.get? l = some e) :
    last.get? l = some e := by
  rcases h with hsame | ⟨hnone, -⟩
  · exact hsame.trans he
  · rw [he] at hnone
    cases hnone

/-- Where no folder is, none has come. -/
theorem KeptAt.eq_of_ne_folder {l : Location} (h : KeptAt d last l)
    (hne : last.get? l ≠ some .folder) : last.get? l = d.get? l :=
  h.resolve_right fun hnew => hne hnew.2

theorem gainsFolders_refl (d : Disk) : GainsFolders d d :=
  fun _ => .inl rfl

theorem GainsFolders.trans (h : GainsFolders d d') (h' : GainsFolders d' last) :
    GainsFolders d last :=
  fun l => (h l).trans (h' l)

theorem GainsFolders.keepsFolders (h : GainsFolders d last) : KeepsFolders d last :=
  fun l hl => (h l).of_some hl

theorem gainsFolders_put {l : Location} (h : d.get? l = none) :
    GainsFolders d (d.put l .folder) := by
  intro k
  by_cases hk : k = l
  · subst hk
    exact .inr ⟨h, get?_put_self d k .folder⟩
  · exact .inl (get?_put_other d hk .folder)

/-- A file put between new folders is the only other change. -/
theorem GainsFolders.around_put (h : GainsFolders d d') {place : Location} {e : Entry}
    (h' : GainsFolders (d'.put place e) last) {l : Location} (hl : l ≠ place) :
    KeptAt d last l := by
  have hput : KeptAt d' (d'.put place e) l := .inl (get?_put_other d' hl e)
  exact (h l).trans (hput.trans (h' l))

/-! ## Creating folders -/

/-- A folder comes where nothing stood. -/
theorem createFolder_eq_ok {start : Location} {names : List String}
    (h : d.createFolder start names = .ok last) :
    ∃ l, d.get? l = none ∧ last = d.put l .folder := by
  obtain ⟨above, -, h⟩ := exists_of_bind_eq_ok h
  rcases hlast : names.getLast? with _ | name
  · rw [hlast] at h
    cases h
  · rw [hlast] at h
    obtain ⟨l, -, h⟩ := exists_of_bind_eq_ok h
    by_cases hrefused : name = "." ∨ name = ".." ∨ (d.get? l).isSome = true
    · simp only [if_pos hrefused] at h
      cases h
    · simp only [if_neg hrefused] at h
      obtain ⟨⟨⟩, -, h⟩ := exists_of_bind_eq_ok h
      cases h
      have hfree : d.get? l = none := by
        simpa using (not_or.mp (not_or.mp hrefused).2).2
      exact ⟨l, hfree, rfl⟩

section Created

variable {P : Disk → Disk → Prop}

/-- What holds of one new folder holds of all that come, also when not all of them can be created. -/
theorem createFirst_induct (refl : ∀ d, P d d) (trans : ∀ {d d' last}, P d d' → P d' last → P d last)
    (put : ∀ {d : Disk} {l : Location}, d.get? l = none → P d (d.put l .folder)) (d : Disk)
    (start : Location) (rows : List (List String)) : P d (d.createFirst start rows).1 := by
  have hcreated : ∀ {d last : Disk} {names : List String},
      d.createFolder start names = .ok last → P d last := by
    intro d last names h
    obtain ⟨l, hfree, rfl⟩ := createFolder_eq_ok h
    exact put hfree
  induction rows generalizing d with
  | nil => exact refl d
  | cons names above ih =>
    unfold createFirst
    split
    · exact hcreated ‹_›
    · -- the folders above come first, whatever becomes of this one
      have habove := ih d
      split
      · rename_i hfailed
        rw [hfailed] at habove
        exact habove
      · rename_i hdone
        rw [hdone] at habove
        split
        · exact trans habove (hcreated ‹_›)
        · exact habove
    · exact refl d

theorem createFolders_induct (refl : ∀ d, P d d)
    (trans : ∀ {d d' last}, P d d' → P d' last → P d last)
    (put : ∀ {d : Disk} {l : Location}, d.get? l = none → P d (d.put l .folder)) (d : Disk)
    (path : String) : P d (d.createFolders path).1 := by
  unfold createFolders
  split
  · exact refl d
  · split
    · exact refl d
    · exact createFirst_induct refl trans put d _ _

end Created

theorem createFolders_gains (d : Disk) (path : String) : GainsFolders d (d.createFolders path).1 :=
  createFolders_induct gainsFolders_refl GainsFolders.trans gainsFolders_put d path

/-- Two disks where the same calls are refused and new files get the same modes. -/
def SameRules (d last : Disk) : Prop :=
  last.refuses = d.refuses ∧ last.mask = d.mask

theorem sameRules_refl (d : Disk) : SameRules d d :=
  ⟨rfl, rfl⟩

theorem SameRules.trans (h : SameRules d d') (h' : SameRules d' last) : SameRules d last :=
  ⟨h'.1.trans h.1, h'.2.trans h.2⟩

theorem sameRules_put (d : Disk) (l : Location) (e : Entry) : SameRules d (d.put l e) :=
  ⟨rfl, rfl⟩

theorem createFolders_sameRules (d : Disk) (path : String) : SameRules d (d.createFolders path).1 :=
  createFolders_induct sameRules_refl SameRules.trans (fun _ => sameRules_put _ _ _) d path

end Disk

end GatewayProvisioning
