import GatewayProvisioning.Files.Install
import GatewayProvisioning.Proofs.Disks

/-!
# Installing a file

When a file is installed, folders come where they are missing and the file stands at its place with
its content and its mode. When it cannot be opened, folders may have come and nothing else has changed.
Once it is open the system may still refuse to write all of its content, to set its mode or to change
its owner. Then the file stays as it was left, and all else is as before.
-/

namespace GatewayProvisioning

/-- Whether a call changes a file: it writes to it, sets its mode or gives it to an owner. -/
def SystemCall.changesFile : SystemCall → Bool
  | .write .. => true
  | .setMode .. => true
  | .setOwner .. => true
  | _ => false

namespace Disk

variable {d last : Disk}

/-! ## One effect after the other -/

theorem run_cons_of_done {e : FileEffect} (h : d.perform e = (last, none))
    (rest : List FileEffect) : d.run (e :: rest) = last.run rest := by
  rw [run, h]

theorem run_cons_of_fault {e : FileEffect} {fault : FileFault}
    (h : d.perform e = (last, some fault)) (rest : List FileEffect) :
    d.run (e :: rest) = (last, .error (.file e.path fault)) := by
  rw [run, h]

/-- A row of effects is done when its beginning is and then its rest. -/
theorem run_append_of_ok {first : List FileEffect} (h : d.run first = (last, .ok ()))
    (rest : List FileEffect) : d.run (first ++ rest) = last.run rest := by
  induction first generalizing d with
  | nil =>
    cases h
    rfl
  | cons e first ih =>
    rcases he : d.perform e with ⟨next, _ | fault⟩
    · rw [run_cons_of_done he] at h
      rw [List.cons_append, run_cons_of_done he, ih h]
    · rw [run_cons_of_fault he] at h
      cases h

theorem run_append_of_error {first : List FileEffect} {failure : Failure}
    (h : d.run first = (last, .error failure)) (rest : List FileEffect) :
    d.run (first ++ rest) = (last, .error failure) := by
  induction first generalizing d with
  | nil => cases h
  | cons e first ih =>
    rcases he : d.perform e with ⟨next, _ | fault⟩
    · rw [run_cons_of_done he] at h
      rw [List.cons_append, run_cons_of_done he, ih h]
    · rw [run_cons_of_fault he] at h
      rw [List.cons_append, run_cons_of_fault he, h]

/-- A row that fails goes no further. -/
theorem run_take_of_error {row : List FileEffect} {k n : Nat} {failure : Failure}
    (h : d.run (row.take k) = (last, .error failure)) (hkn : k ≤ n) :
    d.run (row.take n) = (last, .error failure) := by
  obtain ⟨j, rfl⟩ := Nat.exists_eq_add_of_le hkn
  rw [List.take_add]
  exact run_append_of_error h _

/-- When each effect of a row leads from one disk to the next or fails, the whole row leads to the last
disk, or one of the effects fails and what it leaves stays. -/
theorem run_take_of_steps {row : List FileEffect} {S : Nat → Disk}
    (hstep : ∀ m e, row[m]? = some e → (S m).perform e = (S (m + 1), none) ∨
      ∃ last fault, (S m).perform e = (last, some fault))
    (hend : ∀ m, row[m]? = none → S (m + 1) = S m) :
    (∀ n, (S 0).run (row.take n) = (S n, .ok ())) ∨
    ∃ m e last fault, row[m]? = some e ∧ (S m).perform e = (last, some fault) ∧
      (∀ n ≤ m, (S 0).run (row.take n) = (S n, .ok ())) ∧
      ∀ n, m < n → (S 0).run (row.take n) = (last, .error (.file e.path fault)) := by
  induction row generalizing S with
  | nil =>
    -- past the end of the row nothing happens any more
    have hsame : ∀ n, S n = S 0 := by
      intro n
      induction n with
      | zero => rfl
      | succ n ih => exact (hend n rfl).trans ih
    refine .inl fun n => ?_
    rw [List.take_nil, hsame n]
    rfl
  | cons e rest ih =>
    rcases hstep 0 e rfl with hdone | ⟨last, fault, hfault⟩
    · -- the rest begins where the first effect leads
      have hrun : ∀ n, (S 0).run ((e :: rest).take (n + 1)) = (S 1).run (rest.take n) := fun n => by
        rw [List.take_succ_cons, run_cons_of_done hdone]
      rcases ih (S := fun m => S (m + 1)) (fun m => hstep (m + 1)) (fun m => hend (m + 1)) with
        hall | ⟨m, e', last, fault, he', hfault, hbefore, hafter⟩
      · refine .inl fun n => ?_
        cases n with
        | zero => rfl
        | succ n => exact (hrun n).trans (hall n)
      · refine .inr ⟨m + 1, e', last, fault, he', hfault, fun n hn => ?_, fun n hn => ?_⟩
        · cases n with
          | zero => rfl
          | succ n => exact (hrun n).trans (hbefore n (Nat.le_of_succ_le_succ hn))
        · cases n with
          | zero => cases hn
          | succ n => exact (hrun n).trans (hafter n (Nat.lt_of_succ_lt_succ hn))
    · -- nothing is done after the first effect, so all longer rows end as this one does
      refine .inr ⟨0, e, last, fault, rfl, hfault, fun n hn => ?_, fun n hn => ?_⟩
      · obtain rfl := Nat.le_zero.mp hn
        rfl
      · cases n with
        | zero => cases hn
        | succ n => rw [List.take_succ_cons, run_cons_of_fault hfault]

/-- The system refuses no change to a file: it may only refuse to read, to create folders and to open
files. -/
def RefusesNoChange (d : Disk) : Prop :=
  ∀ entries call, call.changesFile = true → d.refuses entries call = none

/-! ## Opening a file -/

/-- A location where a file stands or can be created. -/
def TakesFile (d : Disk) (l : Location) : Prop :=
  d.get? l = none ∨ ∃ content mode, d.get? l = some (.file content mode)

theorem TakesFile.ne_folder {l : Location} (h : TakesFile d l) : d.get? l ≠ some .folder := by
  rcases h with hnone | ⟨content, mode, hfile⟩
  · rw [hnone]
    exact nofun
  · rw [hfile]
    exact nofun

theorem TakesFile.of_keptAt {l : Location} (htakes : TakesFile last l) (h : KeptAt d last l) :
    TakesFile d l := by
  have hsame := h.eq_of_ne_folder htakes.ne_folder
  unfold TakesFile at htakes ⊢
  rwa [hsame] at htakes

/-- What opening a file comes to: it is empty, or it is the device without room, or it is refused. -/
theorem openEmpty_cases (d : Disk) (path : String) (mode : Nat) :
    (∃ l, d.locateNew path = .ok l ∧ TakesFile d l ∧
      d.openEmpty path mode = .ok (d.put l (.file [] (d.openedMode mode (d.get? l))))) ∨
    (∃ l, d.locateNew path = .ok l ∧ d.get? l = some .full ∧ d.openEmpty path mode = .ok d) ∨
    ∃ fault, d.openEmpty path mode = .error fault := by
  unfold openEmpty
  rcases hl : d.locateNew path with fault | l
  · exact .inr (.inr ⟨fault, rfl⟩)
  by_cases hfolder : d.get? l = some .folder
  · refine .inr (.inr ⟨.system .isFolder, ?_⟩)
    simp only [bind, Except.bind, if_pos hfolder]
    rfl
  rcases hallowed : d.allow (.openEmpty l mode) with error | done
  · refine .inr (.inr ⟨.system error, ?_⟩)
    simp only [bind, Except.bind, if_neg hfolder, hallowed, Except.mapError]
  by_cases hfull : d.get? l = some .full
  · refine .inr (.inl ⟨l, rfl, hfull, ?_⟩)
    simp only [bind, Except.bind, if_neg hfolder, hallowed, Except.mapError, if_pos hfull]
    rfl
  · have htakes : TakesFile d l := by
      rcases hat : d.get? l with _ | ⟨_ | ⟨content, before⟩ | _⟩
      · exact .inl hat
      · exact absurd hat hfolder
      · exact .inr ⟨content, before, hat⟩
      · exact absurd hat hfull
    refine .inl ⟨l, rfl, htakes, ?_⟩
    simp only [bind, Except.bind, if_neg hfolder, hallowed, Except.mapError, if_neg hfull]
    rfl

theorem perform_openEmpty_of_ok {path : String} {mode : Nat} (h : d.openEmpty path mode = .ok last) :
    d.perform (.openEmpty path mode) = (last, none) := by
  simp only [perform, h]

theorem perform_openEmpty_of_error {path : String} {mode : Nat} {fault : FileFault}
    (h : d.openEmpty path mode = .error fault) :
    d.perform (.openEmpty path mode) = (d, some fault) := by
  simp only [perform, h]

/-! ## Rules -/

theorem openEmpty_sameRules {path : String} {mode : Nat} (h : d.openEmpty path mode = .ok last) :
    SameRules d last := by
  rcases openEmpty_cases d path mode with ⟨l, -, -, hopen⟩ | ⟨l, -, -, hopen⟩ | ⟨fault, hopen⟩
  · rw [hopen] at h
    cases h
    exact sameRules_put d l _
  · rw [hopen] at h
    cases h
    exact sameRules_refl d
  · rw [hopen] at h
    cases h

theorem change_sameRules (d : Disk) (path : String)
    (f : Location → Entry → Entry × Option SystemError) : SameRules d (d.change path f).1 := by
  unfold change
  split
  · exact sameRules_refl d
  · split
    · exact sameRules_refl d
    · exact sameRules_put d _ _

/-- No effect changes what is refused. -/
theorem perform_sameRules (d : Disk) (e : FileEffect) : SameRules d (d.perform e).1 := by
  cases e with
  | createFolders path => exact createFolders_sameRules d path
  | openEmpty path mode =>
    rcases hopen : d.openEmpty path mode with fault | last
    · rw [perform_openEmpty_of_error hopen]
      exact sameRules_refl d
    · rw [perform_openEmpty_of_ok hopen]
      exact openEmpty_sameRules hopen
  | write path content => exact change_sameRules d path _
  | setMode path mode => exact change_sameRules d path _
  | setOwner path owner => exact change_sameRules d path _

theorem run_sameRules (d : Disk) (row : List FileEffect) : SameRules d (d.run row).1 := by
  induction row generalizing d with
  | nil => exact sameRules_refl d
  | cons e rest ih =>
    have he := perform_sameRules d e
    rcases hperform : d.perform e with ⟨next, _ | fault⟩
    · rw [hperform] at he
      rw [run_cons_of_done hperform]
      exact he.trans (ih next)
    · rw [hperform] at he
      rwa [run_cons_of_fault hperform]

/-! ## Changing an open file -/

section Change

variable {path : String} {l : Location} {e e' changed : Entry}

/-- What has been put where a path leads is changed there. -/
theorem change_put {f : Location → Entry → Entry × Option SystemError}
    (hl : d.locate path = .ok l) (hfree : d.get? l ≠ some .folder) :
    (d.put l e).change path f = (d.put l (f l e).1, (f l e).2.map .system) := by
  unfold change
  rw [(keepsFolders_put hfree e).locate hl]
  simp only [get?_put_self, put_put]

theorem change_put_done {f : Location → Entry → Entry × Option SystemError}
    (hl : d.locate path = .ok l) (hfree : d.get? l ≠ some .folder) (hf : f l e = (e', none)) :
    (d.put l e).change path f = (d.put l e', none) := by
  rw [change_put hl hfree, hf]
  rfl

theorem change_put_refused {f : Location → Entry → Entry × Option SystemError} {error : SystemError}
    (hl : d.locate path = .ok l) (hfree : d.get? l ≠ some .folder)
    (hf : f l e = (e', some error)) :
    (d.put l e).change path f = (d.put l e', some (.system error)) := by
  rw [change_put hl hfree, hf]
  rfl

/-- A call changes an entry, or it is refused and leaves it alone. -/
theorem change_unlessRefused {f : Location → Entry → Entry × Option SystemError} {call : SystemCall}
    (hl : d.locate path = .ok l) (hfree : d.get? l ≠ some .folder)
    (hf : f l e = e.unlessRefused ((d.put l e).refusal? call) changed) :
    (d.put l e).change path f = (d.put l changed, none) ∨
    ∃ refusal, (d.put l e).refusal? call = some refusal ∧
      (d.put l e).change path f = (d.put l e, some (.system refusal.error)) := by
  rcases hrefusal : (d.put l e).refusal? call with _ | refusal
  · rw [hrefusal] at hf
    exact .inl (change_put_done hl hfree hf)
  · rw [hrefusal] at hf
    exact .inr ⟨refusal, rfl, change_put_refused hl hfree hf⟩

/-- A file that was empty holds the content as a whole, or the part of it that was taken before the
system refused the rest. -/
theorem withContent_cases (content : Bytes) (before : Nat) (refusal : Option Refusal) :
    (Entry.file [] before).withContent content refusal = (.file content before, none) ∨
    ∃ r part, refusal = some r ∧ part <+: content ∧ part ≠ content ∧
      (Entry.file [] before).withContent content refusal = (.file part before, some r.error) := by
  cases refusal with
  | none => exact .inl rfl
  | some r =>
    by_cases hcontent : content = []
    · -- no byte is left to be refused
      subst hcontent
      exact .inl rfl
    · have hpart : content.dropLast.take r.taken <+: content :=
        (List.take_prefix _ _).trans (List.dropLast_prefix content)
      have hne : content.dropLast.take r.taken ≠ content := by
        intro h
        have hlength := congrArg List.length h
        have hpos := List.length_pos_iff.mpr hcontent
        rw [List.length_take, List.length_dropLast] at hlength
        omega
      exact .inr ⟨r, _, rfl, hpart, hne, if_neg (by simpa using hcontent)⟩

theorem perform_write_put (hl : d.locate path = .ok l) (hfree : d.get? l ≠ some .folder)
    (content : Bytes) (before : Nat) :
    (d.put l (.file [] before)).perform (.write path content) =
        (d.put l (.file content before), none) ∨
    ∃ refusal part, (d.put l (.file [] before)).refusal? (.write l content) = some refusal ∧
      part <+: content ∧ part ≠ content ∧
      (d.put l (.file [] before)).perform (.write path content) =
        (d.put l (.file part before), some (.system refusal.error)) := by
  rcases withContent_cases content before ((d.put l (.file [] before)).refusal? (.write l content))
    with hwhole | ⟨refusal, part, hrefusal, hpart, hne, htaken⟩
  · exact .inl (change_put_done hl hfree hwhole)
  · exact .inr ⟨refusal, part, hrefusal, hpart, hne, change_put_refused hl hfree htaken⟩

end Change

end Disk

namespace Install

open Disk

variable {d : Disk}

/-! ## Installing -/

/-- The mode that an installed file has in the end. -/
def finalMode (mode : Nat) (owner : Option Owner) : Nat :=
  if owner.isSome then givenAway mode else mode

/-- What is done to the file once it is open. -/
def fileEffects (target : String) (content : Bytes) (mode : Nat) (owner : Option Owner) :
    List FileEffect :=
  [.write target content, .setMode target mode] ++ owner.toList.map (.setOwner target ·)

theorem effects_eq (folder name : String) (content : Bytes) (mode : Nat) (owner : Option Owner) :
    effects folder name content mode owner =
      .createFolders folder :: .openEmpty (Path.join folder name) mode ::
        fileEffects (Path.join folder name) content mode owner :=
  rfl

/-- What stands where a file is installed after it was opened and so many effects were done to it. -/
def standing (content : Bytes) (mode : Nat) (owner : Option Owner) (before : Nat) : Nat → Entry
  | 0 => .file [] before
  | 1 => .file content before
  | 2 => .file content mode
  | _ + 3 => .file content (finalMode mode owner)

/-- How the system refuses an effect on an open file: how many were done before, what then stands in
its place, and why. -/
inductive Remains (d : Disk) (l : Location) (content : Bytes) (mode : Nat) (owner : Option Owner)
    (before : Nat) : Nat → Entry → SystemError → Prop
  | write {refusal : Refusal} {part : Bytes}
      (refused : (d.put l (.file [] before)).refusal? (.write l content) = some refusal)
      (part_of : part <+: content) (part_ne : part ≠ content) :
      Remains d l content mode owner before 0 (.file part before) refusal.error
  | setMode {refusal : Refusal}
      (refused : (d.put l (.file content before)).refusal? (.setMode l mode) = some refusal) :
      Remains d l content mode owner before 1 (.file content before) refusal.error
  | setOwner {refusal : Refusal} {new : Owner} (owner_eq : owner = some new)
      (refused : (d.put l (.file content mode)).refusal? (.setOwner l new) = some refusal) :
      Remains d l content mode owner before 2 (.file content mode) refusal.error

section OpenFile

variable {target : String} {l : Location} {content : Bytes} {mode before : Nat}
  {owner : Option Owner}

/-- One effect on an open file is done, or it leaves what remains of it. -/
theorem perform_fileEffect (hl : d.locate target = .ok l) (hfree : d.get? l ≠ some .folder)
    (before : Nat) {m : Nat} {e : FileEffect}
    (he : (fileEffects target content mode owner)[m]? = some e) :
    e.path = target ∧
    ((d.put l (standing content mode owner before m)).perform e =
        (d.put l (standing content mode owner before (m + 1)), none) ∨
    ∃ left error, Remains d l content mode owner before m left error ∧
      (d.put l (standing content mode owner before m)).perform e =
        (d.put l left, some (.system error))) := by
  match m with
  | 0 =>
    cases he
    refine ⟨rfl, (perform_write_put hl hfree content before).imp_right ?_⟩
    rintro ⟨refusal, part, hrefused, hpart, hne, hperform⟩
    exact ⟨_, _, .write hrefused hpart hne, hperform⟩
  | 1 =>
    cases he
    refine ⟨rfl, (change_unlessRefused hl hfree rfl).imp_right ?_⟩
    rintro ⟨refusal, hrefused, hperform⟩
    exact ⟨_, _, .setMode hrefused, hperform⟩
  | m + 2 =>
    cases owner with
    | none => cases he
    | some owner =>
      cases m with
      | zero =>
        cases he
        refine ⟨rfl, (change_unlessRefused hl hfree rfl).imp_right ?_⟩
        rintro ⟨refusal, hrefused, hperform⟩
        exact ⟨_, _, .setOwner rfl hrefused, hperform⟩
      | succ m => cases he

/-- The effects on an open file are done one after the other, up to one that the system refuses. -/
theorem run_fileEffects_take (hl : d.locate target = .ok l) (hfree : d.get? l ≠ some .folder)
    (content : Bytes) (mode : Nat) (owner : Option Owner) (before : Nat) :
    (∀ n, (d.put l (.file [] before)).run ((fileEffects target content mode owner).take n) =
      (d.put l (standing content mode owner before n), .ok ())) ∨
    ∃ m left error, Remains d l content mode owner before m left error ∧
      (∀ n ≤ m, (d.put l (.file [] before)).run ((fileEffects target content mode owner).take n) =
        (d.put l (standing content mode owner before n), .ok ())) ∧
      ∀ n, m < n → (d.put l (.file [] before)).run
        ((fileEffects target content mode owner).take n) =
          (d.put l left, .error (.file target (.system error))) := by
  have hend : ∀ m, (fileEffects target content mode owner)[m]? = none →
      standing content mode owner before (m + 1) = standing content mode owner before m := by
    intro m hm
    match m with
    | 0 => cases hm
    | 1 => cases hm
    | 2 =>
      cases owner with
      | none => rfl
      | some owner => cases hm
    | m + 3 => rfl
  have hstep : ∀ m e, (fileEffects target content mode owner)[m]? = some e →
      (d.put l (standing content mode owner before m)).perform e =
        (d.put l (standing content mode owner before (m + 1)), none) ∨
      ∃ last fault, (d.put l (standing content mode owner before m)).perform e =
        (last, some fault) := by
    intro m e he
    refine (perform_fileEffect hl hfree before he).2.imp_right ?_
    rintro ⟨left, error, -, hfault⟩
    exact ⟨_, _, hfault⟩
  rcases run_take_of_steps hstep (fun m hm => congrArg (d.put l) (hend m hm)) with
    hall | ⟨m, e, last, fault, he, hfault, hbefore, hafter⟩
  · exact .inl hall
  · obtain ⟨rfl, hdone | ⟨left, error, hremains, hleft⟩⟩ :=
      perform_fileEffect hl hfree before he
    · rw [hdone] at hfault
      cases hfault
    · rw [hleft] at hfault
      cases hfault
      exact .inr ⟨m, left, error, hremains, hbefore, hafter⟩

end OpenFile

/-- Folders have come, and a path leads to a place where a file stands or can be created. -/
structure OpensAt (d middle : Disk) (target : String) : Prop where
  gains : GainsFolders d middle
  rules : SameRules d middle
  leads : middle.locate target = .ok (place target)
  takes : TakesFile middle (place target)

/-- What becomes of a row of effects that installs a file: the file is not opened, or the device without
room takes its content, or it is installed, or the system refuses an effect on the open file. -/
inductive Course (d : Disk) (row : List FileEffect) (target : String) (content : Bytes) (mode : Nat)
    (owner : Option Owner) : Prop
  | unopened {last : Disk} {failure : Failure} (failed : d.run (row.take 2) = (last, .error failure))
      (kept : ∀ n, GainsFolders d (d.run (row.take n)).1)
  | full {last : Disk} {failure : Failure} (device : d.get? (place target) = some .full)
      (failed : d.run (row.take 3) = (last, .error failure))
      (kept : ∀ n, GainsFolders d (d.run (row.take n)).1)
  | installed {middle : Disk} (opens : OpensAt d middle target)
      (first : d.run (row.take 1) = (middle, .ok ()))
      (done : ∀ n, d.run (row.take (n + 2)) = (middle.put (place target)
        (standing content mode owner (d.openedMode mode (d.get? (place target))) n), .ok ()))
  | stopped {middle : Disk} {m : Nat} {left : Entry} {error : SystemError}
      (opens : OpensAt d middle target) (first : d.run (row.take 1) = (middle, .ok ()))
      (remains : Remains middle (place target) content mode owner
        (d.openedMode mode (d.get? (place target))) m left error)
      (done : ∀ n ≤ m, d.run (row.take (n + 2)) = (middle.put (place target)
        (standing content mode owner (d.openedMode mode (d.get? (place target))) n), .ok ()))
      (failed : ∀ n, m < n → d.run (row.take (n + 2)) =
        (middle.put (place target) left, .error (.file target (.system error))))

section

variable {folder name : String} {content : Bytes} {mode : Nat} {owner : Option Owner}

/-- New folders do not bear on the mode that a file is opened with. -/
theorem OpensAt.openedMode_eq {middle : Disk} {target : String} (h : OpensAt d middle target)
    (mode : Nat) : middle.openedMode mode (middle.get? (place target)) =
      d.openedMode mode (d.get? (place target)) := by
  rw [(h.gains _).eq_of_ne_folder h.takes.ne_folder]
  unfold openedMode
  rw [h.rules.2]

/-- The device without room takes no byte. -/
theorem run_write_of_full {target : String} {l : Location} (hl : d.locateNew target = .ok l)
    (hat : d.get? l = some .full) (hcontent : content ≠ []) (rest : List FileEffect) :
    d.run (.write target content :: rest) = (d, .error (.file target (.system .noSpace))) := by
  have hwrite : d.perform (.write target content) = (d, some (.system .noSpace)) := by
    unfold perform change
    simp only [locate_of_locateNew hl, hat, Entry.withContent, put_of_get? hat]
    rw [if_neg (by simpa using hcontent)]
    rfl
  exact run_cons_of_fault hwrite rest

/-- A row that goes wrong has brought new folders and nothing else, if that is all up to then. -/
theorem gainsFolders_take {row : List FileEffect} {k : Nat} {last : Disk} {failure : Failure}
    (hfailed : d.run (row.take k) = (last, .error failure)) (hlast : GainsFolders d last)
    (hbefore : ∀ n < k, GainsFolders d (d.run (row.take n)).1) (n : Nat) :
    GainsFolders d (d.run (row.take n)).1 := by
  rcases Nat.lt_or_ge n k with hn | hn
  · exact hbefore n hn
  · rwa [run_take_of_error hfailed hn]

section Created

variable {row : List FileEffect} {middle : Disk} {target : String}
  (hrow : ∀ n, d.run (row.take (n + 1)) =
    middle.run ((.openEmpty target mode :: fileEffects target content mode owner).take n))

include hrow

theorem course_of_opened (hopens : OpensAt d middle target)
    (hopen : middle.openEmpty target mode = .ok (middle.put (place target)
      (.file [] (d.openedMode mode (d.get? (place target)))))) :
    Course d row target content mode owner := by
  have hfirst : d.run (row.take 1) = (middle, .ok ()) := hrow 0
  have hopened : ∀ n, d.run (row.take (n + 2)) =
      (middle.put (place target) (.file [] (d.openedMode mode (d.get? (place target))))).run
        ((fileEffects target content mode owner).take n) := fun n => by
    rw [hrow, List.take_succ_cons, run_cons_of_done (perform_openEmpty_of_ok hopen)]
  rcases run_fileEffects_take hopens.leads hopens.takes.ne_folder content mode owner
      (d.openedMode mode (d.get? (place target))) with
    hall | ⟨m, left, error, hremains, hbefore, hafter⟩
  · exact .installed hopens hfirst fun n => (hopened n).trans (hall n)
  · exact .stopped hopens hfirst hremains (fun n hn => (hopened n).trans (hbefore n hn))
      fun n hn => (hopened n).trans (hafter n hn)

theorem course_of_full (hgains : GainsFolders d middle)
    (hl : middle.locateNew target = .ok (place target))
    (hat : middle.get? (place target) = some .full) (hopen : middle.openEmpty target mode = .ok middle)
    (hcontent : content ≠ []) : Course d row target content mode owner := by
  have hopened := perform_openEmpty_of_ok hopen
  have hfirst : d.run (row.take 1) = (middle, .ok ()) := hrow 0
  have hsecond : d.run (row.take 2) = (middle, .ok ()) := (hrow 1).trans (run_cons_of_done hopened [])
  have hfailed : d.run (row.take 3) = (middle, .error (.file target (.system .noSpace))) :=
    (hrow 2).trans ((run_cons_of_done hopened _).trans (run_write_of_full hl hat hcontent []))
  have hdevice : d.get? (place target) = some .full := by
    rw [← (hgains _).eq_of_ne_folder (by rw [hat]; exact nofun), hat]
  refine .full hdevice hfailed (gainsFolders_take hfailed hgains fun n hn => ?_)
  match n, hn with
  | 0, _ => exact gainsFolders_refl d
  | 1, _ => rwa [hfirst]
  | 2, _ => rwa [hsecond]

theorem course_of_refused (hgains : GainsFolders d middle) {fault : FileFault}
    (hopen : middle.openEmpty target mode = .error fault) :
    Course d row target content mode owner := by
  have hfirst : d.run (row.take 1) = (middle, .ok ()) := hrow 0
  have hfailed : d.run (row.take 2) = (middle, .error (.file target fault)) :=
    (hrow 1).trans (run_cons_of_fault (perform_openEmpty_of_error hopen) [])
  refine .unopened hfailed (gainsFolders_take hfailed hgains fun n hn => ?_)
  match n, hn with
  | 0, _ => exact gainsFolders_refl d
  | 1, _ => rwa [hfirst]

end Created

/-- Installing a file that is not empty takes one of its courses. -/
theorem course (d : Disk) (folder name : String) {content : Bytes} (hcontent : content ≠ [])
    (mode : Nat) (owner : Option Owner) :
    Course d (effects folder name content mode owner) (Path.join folder name) content mode owner := by
  have hgains := createFolders_gains d folder
  have hrules := createFolders_sameRules d folder
  rcases hfolders : d.createFolders folder with ⟨middle, _ | fault⟩
  · rw [hfolders] at hgains hrules
    have hcreated : d.perform (.createFolders folder) = (middle, none) := hfolders
    have hrow : ∀ n, d.run ((effects folder name content mode owner).take (n + 1)) =
        middle.run ((.openEmpty (Path.join folder name) mode ::
          fileEffects (Path.join folder name) content mode owner).take n) := fun n => by
      rw [effects_eq, List.take_succ_cons, run_cons_of_done hcreated]
    -- the folder is there, and all depends on whether the file can be opened
    rcases openEmpty_cases middle (Path.join folder name) mode with
      ⟨l, hl, htakes, hopen⟩ | ⟨l, hl, hat, hopen⟩ | ⟨fault, hopen⟩
    · have hleads := locate_of_locateNew hl
      obtain rfl := eq_place hleads
      have hopens : OpensAt d middle (Path.join folder name) := ⟨hgains, hrules, hleads, htakes⟩
      rw [hopens.openedMode_eq mode] at hopen
      exact course_of_opened hrow hopens hopen
    · obtain rfl := eq_place (locate_of_locateNew hl)
      exact course_of_full hrow hgains hl hat hopen hcontent
    · exact course_of_refused hrow hgains hopen
  · rw [hfolders] at hgains
    have hrefused : d.perform (.createFolders folder) = (middle, some fault) := hfolders
    have hfailed : d.run ((effects folder name content mode owner).take 1) =
        (middle, .error (.file folder fault)) :=
      run_cons_of_fault hrefused []
    refine .unopened (run_take_of_error hfailed (by decide))
      (gainsFolders_take hfailed hgains fun n hn => ?_)
    obtain rfl := Nat.lt_one_iff.mp hn
    exact gainsFolders_refl d

theorem effects_take (folder name : String) (content : Bytes) (mode : Nat) (owner : Option Owner) :
    (effects folder name content mode owner).take (3 + 2) =
      effects folder name content mode owner :=
  List.take_of_length_le (by cases owner <;> simp [effects])

/-- What an installation that failed leaves behind. Either the file was not opened, and there are only
new folders, or the file that was opened holds what remains, and there are only new folders beside it. -/
inductive Abandoned (d last : Disk) (folder name : String) (content : Bytes) (mode : Nat)
    (owner : Option Owner) (failure : Failure) : Prop
  | unopened (reason : (d.run ((effects folder name content mode owner).take 2)).2 ≠ .ok () ∨
        d.get? (place (Path.join folder name)) = some .full)
      (kept : GainsFolders d last)
  | opened {middle : Disk} {m : Nat} {left : Entry} {error : SystemError}
      (opened : (d.run ((effects folder name content mode owner).take 2)).2 = .ok ())
      (gains : GainsFolders d middle) (rules : SameRules d middle)
      (remains : Remains middle (place (Path.join folder name)) content mode owner
        (d.openedMode mode (d.get? (place (Path.join folder name)))) m left error)
      (failure_eq : failure = .file (Path.join folder name) (.system error))
      (takes : TakesFile d (place (Path.join folder name)))
      (leads : last.locate (Path.join folder name) = .ok (place (Path.join folder name)))
      (stands : last.get? (place (Path.join folder name)) = some left)
      (kept : ∀ l, l ≠ place (Path.join folder name) → KeptAt d last l)

/-- An installation that fails leaves the file unopened or what remains of it. -/
theorem abandoned (hcontent : content ≠ []) {last : Disk} {failure : Failure}
    (h : d.run (effects folder name content mode owner) = (last, .error failure)) :
    Abandoned d last folder name content mode owner failure := by
  rw [← effects_take] at h
  cases course d folder name hcontent mode owner with
  | unopened failed kept =>
    have hkept := kept (3 + 2)
    rw [h] at hkept
    exact .unopened (.inl (by rw [failed]; exact nofun)) hkept
  | full device failed kept =>
    have hkept := kept (3 + 2)
    rw [h] at hkept
    exact .unopened (.inr device) hkept
  | installed opens first done =>
    rw [done] at h
    cases h
  | @stopped middle m left error opens first remains done failed =>
    have hm : m < 3 := by cases remains <;> decide
    rw [failed 3 hm] at h
    cases h
    have hfree := opens.takes.ne_folder
    refine .opened (congrArg Prod.snd (done 0 (Nat.zero_le m))) opens.gains opens.rules remains rfl
      (opens.takes.of_keptAt (opens.gains _)) ((keepsFolders_put hfree left).locate opens.leads)
      (get?_put_self middle _ left) fun l hl => ?_
    exact (opens.gains l).trans (.inl (get?_put_other middle hl left))

/-- Where no change to a file is refused, every file that was opened is installed. -/
theorem Remains.elim {middle : Disk} {l : Location} {before m : Nat} {left : Entry}
    {error : SystemError} (h : Remains middle l content mode owner before m left error)
    (hrules : SameRules d middle) (hd : d.RefusesNoChange) : False := by
  have hnone : ∀ {e : Entry} {call : SystemCall}, call.changesFile = true →
      (middle.put l e).refusal? call = none := by
    intro e call hcall
    rw [refusal?, refuses_put, hrules.1]
    exact hd _ call hcall
  cases h with
  | write refused =>
    rw [hnone rfl] at refused
    cases refused
  | setMode refused =>
    rw [hnone rfl] at refused
    cases refused
  | setOwner owner_eq refused =>
    rw [hnone rfl] at refused
    cases refused

/-- Wherever the file is not to be installed, there are only new folders. -/
theorem Abandoned.keptAt {last : Disk} {failure : Failure}
    (h : Abandoned d last folder name content mode owner failure) {l : Location}
    (hl : l ≠ place (Path.join folder name)) : KeptAt d last l := by
  cases h with
  | unopened reason kept => exact kept l
  | opened opened gains rules remains failure_eq takes leads stands kept => exact kept l hl

/-- Where a folder was, no file was opened. -/
theorem Abandoned.keepsFolders {last : Disk} {failure : Failure}
    (h : Abandoned d last folder name content mode owner failure) : KeepsFolders d last := by
  cases h with
  | unopened reason kept => exact GainsFolders.keepsFolders kept
  | opened opened gains rules remains failure_eq takes leads stands kept =>
    intro l hl
    by_cases hplace : l = place (Path.join folder name)
    · subst hplace
      exact absurd hl takes.ne_folder
    · exact (kept l hplace).of_some hl

/-- When a file was installed, it stands where its path leads, and there are new folders. -/
theorem run_effects_ok {last : Disk} (hcontent : content ≠ [])
    (h : d.run (effects folder name content mode owner) = (last, .ok ())) :
    ∃ middle, OpensAt d middle (Path.join folder name) ∧
      last = middle.put (place (Path.join folder name)) (.file content (finalMode mode owner)) := by
  rw [← effects_take] at h
  cases course d folder name hcontent mode owner with
  | unopened failed kept =>
    rw [run_take_of_error failed (by decide)] at h
    cases h
  | full device failed kept =>
    rw [run_take_of_error failed (by decide)] at h
    cases h
  | installed opens first done =>
    rw [done] at h
    cases h
    exact ⟨_, opens, rfl⟩
  | stopped opens first remains done failed =>
    rw [failed 3 (by cases remains <;> decide)] at h
    cases h

end

theorem sameRules_foldl {α : Type} {f : Disk → α → Disk} (hf : ∀ d x, SameRules d (f d x))
    (xs : List α) (d : Disk) : SameRules d (xs.foldl f d) := by
  induction xs generalizing d with
  | nil => exact sameRules_refl d
  | cons x xs ih => exact (hf d x).trans (ih (f d x))

theorem disk_sameRules (files : List (String × Bytes)) : SameRules .bare (disk files) :=
  sameRules_foldl (fun d _ => run_sameRules d _) files .bare

end Install

namespace FileAction

variable {α β : Type} {x : FileAction α} {f : α → FileAction β} {d last : Disk}

theorem bind_apply : (x >>= f) d = ExceptT.bindCont f (x d).1 (x d).2 :=
  rfl

theorem bind_of_ok {a : α} (h : x d = (.ok a, last)) : (x >>= f) d = f a last := by
  rw [bind_apply, h]
  rfl

theorem bind_of_error {failure : Failure} (h : x d = (.error failure, last)) :
    (x >>= f) d = (.error failure, last) := by
  rw [bind_apply, h]
  rfl

/-- A failure is told by its wording. -/
theorem exists_of_message {message : String}
    (h : (x d).1.mapError Failure.message = .error message) :
    ∃ failure, failure.message = message ∧ x d = (.error failure, (x d).2) := by
  obtain ⟨failure, hfailure, hmessage⟩ := exists_of_mapError_eq_error h
  exact ⟨failure, hmessage, Prod.ext hfailure rfl⟩

theorem read_apply {path : String} {result : Except Failure Bytes}
    (h : FileSource.read d.read path = result) : FileAction.read path d = (result, d) :=
  Prod.ext h rfl

theorem perform_apply {effects : List FileEffect} {result : Except Failure Unit}
    (h : d.run effects = (last, result)) : FileAction.perform effects d = (result, last) := by
  unfold FileAction.perform
  rw [h]

theorem file_of_ok {folder name : String} {content : Bytes} {mode : Nat} {owner : Option Owner}
    (h : d.run (Install.effects folder name content mode owner) = (last, .ok ())) :
    Install.file folder name content mode owner d = (.ok (Path.join folder name), last) :=
  bind_of_ok (perform_apply h)

theorem file_of_error {folder name : String} {content : Bytes} {mode : Nat} {owner : Option Owner}
    {failure : Failure}
    (h : d.run (Install.effects folder name content mode owner) = (last, .error failure)) :
    Install.file folder name content mode owner d = (.error failure, last) :=
  bind_of_error (perform_apply h)

end FileAction

end GatewayProvisioning
