import Fleet.Commit
import Fleet.Proofs.Room

namespace Fleet

/-! # Cloning, committing and the display

What is written while repositories are cloned and commits are made goes straight to the display, and
most of it goes whether the display takes it or not.  One kind of line is different: a command whose
announcement is not taken is not started (`ChildProcess.announced`).  So a display without room
keeps `git` from being run at all, and what was to be done with it counts as an error.

This is the only way in which the display matters.  An activity goes the same way on two displays
until the smaller one refuses an announcement that the other takes; from there on it runs nothing on
the smaller one.  `Heedless` says so of an activity and of each part of one; `Act` names the parts.
Hence the commands that are run on one of two displays begin those that are run on the other, and if
they are the same, so are the summary and the files (`Workshop.git_on_displays`).
-/

/-! ## What is done in a workshop -/

/-- Something that is done in a workshop. -/
abbrev Act (σ α : Type) := Workshop σ → Workshop σ × α

namespace Act

variable {σ α β : Type}

/-- Comes to something without doing anything. -/
def done (a : α) : Act σ α := fun w => (w, a)

/-- Writes a line, whether the display takes it or not. -/
def tell (line : String) (a : α) : Act σ α := fun w => (w.say line, a)

/-- Changes the files. -/
def change (f : FileSystem → FileSystem × α) : Act σ α :=
  fun w => ({ w with files := (f w.files).1 }, (f w.files).2)

/-- Goes on according to what an act has come to. -/
def andThen (act : Act σ α) (next : α → Act σ β) : Act σ β := fun w => next (act w).2 (act w).1

/-- Does one thing or another, according to the files. -/
def choose (holds : FileSystem → Bool) (act act' : Act σ α) : Act σ α :=
  andThen (change fun fs => (fs, holds fs)) fun
    | true => act
    | false => act'

/-- Counts an act as done if it has succeeded, and complains if it has not. -/
def finish (act : Act σ (Except Error Unit)) (complaint : Error → String) : Act σ Outcome :=
  andThen act fun
    | .ok () => done .succeeded
    | .error e => tell (complaint e) .failed

/-- Counts what an act has come to. -/
def count (act : Act σ Outcome) : Act σ Unit :=
  fun w => ({ (act w).1 with summary := (act w).1.summary.add (act w).2 }, ())

/-- Has a command run. -/
def ask (talk : σ → FileSystem → Talk (Except Error α × σ × FileSystem)) : Act σ (Except Error α) :=
  fun w =>
    let told := (talk w.executor w.files).on w.display
    ({ w with display := told.2, files := told.1.2.2, executor := told.1.2.1 }, told.1.1)

theorem choose_eq (holds : FileSystem → Bool) (act act' : Act σ α) (w : Workshop σ) :
    act.choose holds act' w = if holds w.files then act w else act' w := by
  simp only [choose, andThen, change]
  cases holds w.files
  · rfl
  · rfl

theorem finish_eq (act : Act σ (Except Error Unit)) (complaint : Error → String) (w : Workshop σ) :
    act.finish complaint w =
      match act w with
      | (w, .ok ()) => (w, .succeeded)
      | (w, .error e) => (w.say (complaint e), .failed) := by
  simp only [finish, andThen]
  rcases act w with ⟨w', e | ⟨⟨⟩⟩⟩
  · rfl
  · rfl

end Act

namespace Git

variable {σ : Type}

theorem execute_eq (x : Executor σ) (dir : Path) (args : List String) :
    execute x dir args = Act.ask (x.execute ⟨dir, "git", args⟩) := rfl

theorem isChanged_eq (x : Executor σ) (dir : Path) :
    isChanged x dir = Act.andThen (Act.ask (x.capture ⟨dir, "git", ["status", "--porcelain"]⟩))
      fun result => Act.done (result.map tellsChange) := rfl

theorem checkoutNew_eq (x : Executor σ) (dir : Path) (branch : String) :
    checkoutNew x dir branch =
      if isBadBranch branch then
        Act.done (.error (.usage ("invalid branch name '" ++ branch ++ "'")))
      else execute x dir ["checkout", "-b", branch] := by
  funext w
  rw [checkoutNew]
  split <;> rfl

end Git

namespace Workshop

variable {σ : Type}

theorem cloneAndBranch_eq (x : Executor σ) (campaign : String) (root : Path) (host : String)
    (repo : Repository) :
    cloneAndBranch x campaign root host repo =
      Act.andThen (Git.clone x (root / repo.org) (repo.cloneUrl host) repo.name) fun
        | .ok () => Git.checkoutNew x (repo.workDir root) campaign
        | .error e => .done (.error e) := by
  funext w
  simp only [cloneAndBranch, Act.andThen]
  split <;> next h => simp only [h, Act.done]

/-- The turn of a repository in a clone, act by act. -/
theorem cloneOne_eq (x : Executor σ) (campaign : String) (root : Path) (host : String)
    (repo : Repository) :
    (cloneOne x campaign root host · repo) =
      Act.choose (·.isPresent (repo.workDir root))
        (.tell ("Skipping " ++ repo.fullName ++ ": " ++ (repo.workDir root).text ++
          " already exists") .skipped)
        (.andThen (.tell ("== Cloning " ++ repo.fullName ++ " into " ++ (repo.workDir root).text ++
            " =>") ()) fun _ =>
          .andThen (.change (·.makeDirectories (root / repo.org))) fun
            | .ok () =>
              .finish (cloneAndBranch x campaign root host repo) fun e =>
                "Error when cloning " ++ repo.fullName ++ ": " ++ e.message
            | .error e =>
              .tell ("Unable to create " ++ (root / repo.org).text ++ ": " ++ e.text) .failed) := by
  funext w
  simp only [cloneOne, Act.choose_eq]
  split
  · rfl
  simp only [Act.andThen, Act.tell, Act.change]
  split
  · next hplace =>
    simp only [hplace]
    rfl
  · next hplace =>
    simp only [hplace]
    exact (Act.finish_eq _ _ _).symm

/-- The turn of a repository in a commit, act by act. -/
theorem commitOne_eq (x : Executor σ) (root : Path) (message : String) (repo : Repository) :
    (commitOne x root message · repo) =
      Act.choose (·.isPresent (repo.workDir root))
        (.andThen (.tell (Run.heading repo) ()) fun _ =>
          .andThen (Git.isChanged x (repo.workDir root)) fun
            | .error e =>
              .tell ("Error when checking for changes in " ++ repo.fullName ++ ": " ++ e.message)
                .failed
            | .ok false =>
              .tell ("No changes in " ++ repo.fullName ++ " - skipping commit") .skipped
            | .ok true =>
              .andThen (.tell ("Committing changes in " ++ repo.fullName) ()) fun _ =>
                .finish (Git.commitAll x (repo.workDir root) message) fun e =>
                  "Error when committing changes in " ++ repo.fullName ++ ": " ++ e.message)
        (.tell (Run.absence "Not committing in " repo (repo.workDir root)) .skipped) := by
  funext w
  simp only [commitOne, Act.choose_eq]
  split
  · simp only [Act.andThen, Act.tell]
    split
    · next hchanged =>
      simp only [hchanged]
      rfl
    · next hchanged =>
      simp only [hchanged]
      rfl
    · next hchanged =>
      simp only [hchanged]
      exact (Act.finish_eq _ _ _).symm
  · rfl

end Workshop

/-! ## Two displays -/

namespace Workshop

variable {α : Type} {w w' : Workshop (List Call)}

/-- A workshop without what was remembered. -/
def forget (w : Workshop (List Call)) : Workshop Unit := ⟨w.display, w.files, (), w.summary⟩

/-- Two workshops in which the same has been done, the first on a display with no more room. -/
structure Alike (w w' : Workshop (List Call)) : Prop where
  display : w.display.NoRoomier w'.display
  files : w.files = w'.files
  executor : w.executor = w'.executor
  summary : w.summary = w'.summary

/-- A workshop whose display has no room left, while more has been done in another. -/
structure CutOff (w w' : Workshop (List Call)) : Prop where
  room : w.display.room = some 0
  /-- the commands that were run in the first are not all that were run in the other -/
  commands : ∃ more ≠ [], w'.executor = more ++ w.executor

/-- What an act has come to in two workshops: the same, unless the first is cut off. -/
def Tandem (s s' : Workshop (List Call) × α) : Prop :=
  (s.1.Alike s'.1 ∧ s.2 = s'.2) ∨ s.1.CutOff s'.1

end Workshop

/-- An act that heeds the display only in that it runs nothing when there is no room for an
announcement, and what it does if the executor remembers nothing. -/
structure Heedless {α : Type} (act : Act (List Call) α) (plain : Act Unit α) : Prop where
  tandem : ∀ {w w'}, w.Alike w' → Workshop.Tandem (act w) (act w')
  /-- without room no command is run -/
  idle : ∀ {w}, w.display.room = some 0 → (act w).1.executor = w.executor
  grows : ∀ w, w.executor <:+ (act w).1.executor
  room : ∀ w, ∃ k, (act w).1.display.room = w.display.room.map (· - k)
  forgets : ∀ w, plain w.forget = ((act w).1.forget, (act w).2)

namespace Heedless

open Workshop

variable {α β : Type} {act act' : Act (List Call) α} {plain plain' : Act Unit α}
  {w w' : Workshop (List Call)}

/-- A workshop that is cut off stays so, whatever is done in it and in the other. -/
theorem cutOff (h : Heedless act plain) (h' : Heedless act' plain') (hcut : w.CutOff w') :
    (act w).1.CutOff (act' w').1 := by
  obtain ⟨later, hlater⟩ := h'.grows w'
  obtain ⟨k, hk⟩ := h.room w
  obtain ⟨more, hne, hmore⟩ := hcut.commands
  refine ⟨by simp [hk, hcut.room], later ++ more, by simp [hne], ?_⟩
  rw [h.idle hcut.room, ← hlater, hmore, List.append_assoc]

/-! ### Parts that write lines and change files -/

theorem done (a : α) : Heedless (Act.done a) (Act.done a) where
  tandem h := .inl ⟨h, rfl⟩
  idle _ := rfl
  grows _ := List.suffix_rfl
  room _ := ⟨0, by simp [Act.done]⟩
  forgets _ := rfl

theorem tell (line : String) (a : α) : Heedless (Act.tell line a) (Act.tell line a) where
  tandem h := .inl ⟨⟨h.display.write _, h.files, h.executor, h.summary⟩, rfl⟩
  idle _ := rfl
  grows _ := List.suffix_rfl
  room w := ⟨_, w.display.write_room _⟩
  forgets _ := rfl

theorem change (f : FileSystem → FileSystem × α) : Heedless (Act.change f) (Act.change f) where
  tandem h := .inl ⟨⟨h.display, congrArg (fun fs => (f fs).1) h.files, h.executor, h.summary⟩,
    congrArg (fun fs => (f fs).2) h.files⟩
  idle _ := rfl
  grows _ := List.suffix_rfl
  room _ := ⟨0, by simp [Act.change]⟩
  forgets _ := rfl

/-! ### Parts put together -/

theorem andThen (h : Heedless act plain) {next : α → Act (List Call) β} {plainNext : α → Act Unit β}
    (hnext : ∀ a, Heedless (next a) (plainNext a)) :
    Heedless (act.andThen next) (plain.andThen plainNext) where
  tandem {w w'} halike := by
    rcases h.tandem halike with ⟨hafter, hsame⟩ | hcut
    · simp only [Act.andThen, ← hsame]
      exact (hnext _).tandem hafter
    · have hafter := (hnext (act w).2).cutOff (hnext (act w').2) hcut
      exact .inr hafter
  idle {w} hroom := by
    obtain ⟨k, hk⟩ := h.room w
    have hfull : (act w).1.display.room = some 0 := by simp [hk, hroom]
    exact ((hnext (act w).2).idle hfull).trans (h.idle hroom)
  grows w := (h.grows w).trans ((hnext (act w).2).grows (act w).1)
  room w := by
    obtain ⟨k, hk⟩ := h.room w
    obtain ⟨k', hk'⟩ := (hnext (act w).2).room (act w).1
    refine ⟨k + k', ?_⟩
    rw [Act.andThen, hk', hk, Option.map_map]
    simp [Function.comp_def, Nat.sub_sub]
  forgets w := by rw [Act.andThen, h.forgets, (hnext _).forgets]; rfl

theorem choose (holds : FileSystem → Bool) (h : Heedless act plain) (h' : Heedless act' plain') :
    Heedless (act.choose holds act') (plain.choose holds plain') :=
  (change fun fs => (fs, holds fs)).andThen fun
    | true => h
    | false => h'

theorem count {act : Act (List Call) Outcome} {plain : Act Unit Outcome} (h : Heedless act plain) :
    Heedless act.count plain.count where
  tandem {w w'} halike := by
    rcases h.tandem halike with ⟨hafter, hsame⟩ | hcut
    · refine .inl ⟨⟨hafter.display, hafter.files, hafter.executor, ?_⟩, rfl⟩
      simp only [Act.count, hsame, hafter.summary]
    · exact .inr ⟨hcut.room, hcut.commands⟩
  idle hroom := h.idle hroom
  grows w := h.grows w
  room w := h.room w
  forgets w := by rw [Act.count, h.forgets]; rfl

theorem finish {act : Act (List Call) (Except Error Unit)} {plain : Act Unit (Except Error Unit)}
    (h : Heedless act plain) (complaint : Error → String) :
    Heedless (act.finish complaint) (plain.finish complaint) :=
  h.andThen fun
    | .ok () => done Outcome.succeeded
    | .error e => tell (complaint e) Outcome.failed

/-- Taking one repository after another is heedless if taking each of them is. -/
theorem forEach {take : Workshop (List Call) → Repository → Workshop (List Call) × Outcome}
    {plainTake : Workshop Unit → Repository → Workshop Unit × Outcome}
    (h : ∀ repo, Heedless (take · repo) (plainTake · repo)) (repos : List Repository) :
    Heedless (fun w => (Workshop.forEach take repos w, ()))
      (fun w => (Workshop.forEach plainTake repos w, ())) := by
  induction repos with
  | nil => exact done ()
  | cons repo rest ih => exact (h repo).count.andThen fun _ => ih

/-! ### Parts that run a command -/

open ChildProcess

theorem ask {talk : FileSystem → Talk (Except Error α × Unit × FileSystem)}
    (h : ∀ fs, IsAnnounced fs (talk fs)) (call : Call) :
    Heedless (Act.ask fun calls fs => noting call calls (talk fs))
      (Act.ask fun _ fs => talk fs) where
  tandem {w w'} halike := by
    obtain ⟨request, go, htalk, hdeaf⟩ := h w.files
    simp only [Act.ask, ← halike.files, htalk]
    have hafter := halike.display.write (announcing request)
    rcases halike.display.write_cases (announcing request) with hsame | ⟨hrefused, htaken, hfull⟩
    · rcases hd : (w.display.write (announcing request)).2 with e | ⟨⟨⟩⟩
      · rw [noting_refused hd, noting_refused (hsame ▸ hd)]
        exact .inl ⟨⟨hafter, rfl, halike.executor, halike.summary⟩, rfl⟩
      · rw [noting_taken hd, noting_taken (hsame ▸ hd)]
        obtain ⟨hgo, hroom⟩ := hdeaf _ _ hafter
        refine .inl ⟨⟨hroom, ?_, ?_, halike.summary⟩, ?_⟩
        · exact congrArg (·.2.2) hgo
        · exact congrArg (call :: ·) halike.executor
        · exact congrArg (·.1) hgo
    · rw [noting_refused hrefused, noting_taken htaken]
      exact .inr ⟨hfull, [call], by simp, by simp [halike.executor]⟩
  idle {w} hroom := by
    obtain ⟨request, go, htalk, -⟩ := h w.files
    have hlength := length_announcing request
    rcases w.display.write_cases (announcing request) with ⟨hfits, -⟩ | ⟨-, hrefused, -⟩
    · exact absurd (hfits 0 hroom) (by omega)
    · simp only [Act.ask, htalk, noting_refused hrefused]
  grows w := by
    obtain ⟨request, go, htalk, -⟩ := h w.files
    rcases hd : (w.display.write (announcing request)).2 with e | ⟨⟨⟩⟩
    · simp only [Act.ask, htalk, noting_refused hd]
      exact List.suffix_rfl
    · simp only [Act.ask, htalk, noting_taken hd]
      exact List.suffix_cons _ _
  room w := (noting call w.executor (talk w.files)).on_room w.display
  forgets w := by
    obtain ⟨noted, hnoted⟩ := noting_on call w.executor (talk w.files) w.display
    simp only [Act.ask, hnoted]
    rfl

end Heedless

namespace ChildProcess

variable (spawn : Spawn)

theorem heedless_execute (dir : Path) (args : List String) :
    Heedless (Git.execute (remembering spawn) dir args)
      (Git.execute (executor spawn) dir args) := by
  rw [Git.execute_eq, Git.execute_eq]
  exact .ask (isAnnounced_execute spawn _) _

theorem heedless_isChanged (dir : Path) :
    Heedless (Git.isChanged (remembering spawn) dir) (Git.isChanged (executor spawn) dir) := by
  rw [Git.isChanged_eq, Git.isChanged_eq]
  exact (Heedless.ask (isAnnounced_capture spawn _) _).andThen fun _ => .done _

theorem heedless_checkoutNew (dir : Path) (branch : String) :
    Heedless (Git.checkoutNew (remembering spawn) dir branch)
      (Git.checkoutNew (executor spawn) dir branch) := by
  rw [Git.checkoutNew_eq, Git.checkoutNew_eq]
  split
  · exact .done _
  · exact heedless_execute spawn dir _

theorem heedless_cloneOne (campaign : String) (root : Path) (host : String) (repo : Repository) :
    Heedless (Workshop.cloneOne (remembering spawn) campaign root host · repo)
      (Workshop.cloneOne (executor spawn) campaign root host · repo) := by
  have hclone : Heedless (Workshop.cloneAndBranch (remembering spawn) campaign root host repo)
      (Workshop.cloneAndBranch (executor spawn) campaign root host repo) := by
    rw [Workshop.cloneAndBranch_eq, Workshop.cloneAndBranch_eq]
    refine (heedless_execute spawn _ _).andThen fun result => ?_
    rcases result with e | ⟨⟨⟩⟩
    · exact .done _
    · exact heedless_checkoutNew spawn _ campaign
  rw [Workshop.cloneOne_eq, Workshop.cloneOne_eq]
  refine .choose _ (.tell _ _) (.andThen (.tell _ _) fun _ => .andThen (.change _) fun made => ?_)
  rcases made with e | ⟨⟨⟩⟩
  · exact .tell _ _
  · exact hclone.finish _

theorem heedless_commitOne (root : Path) (message : String) (repo : Repository) :
    Heedless (Workshop.commitOne (remembering spawn) root message · repo)
      (Workshop.commitOne (executor spawn) root message · repo) := by
  rw [Workshop.commitOne_eq, Workshop.commitOne_eq]
  refine .choose _ (.andThen (.tell _ _) fun _ => (heedless_isChanged spawn _).andThen fun
    changed => ?_) (.tell _ _)
  rcases changed with e | (_ | _)
  · exact .tell _ _
  · exact .tell _ _
  · exact .andThen (.tell _ _) fun _ => (heedless_execute spawn _ _).finish _

end ChildProcess

namespace Workshop

variable {w w' : Workshop (List Call)}

/-- Two workshops in which the same commands were run, with the same summary and the same files. -/
structure Agree (w w' : Workshop (List Call)) : Prop where
  commands : w.executor = w'.executor
  summary : w.summary = w'.summary
  files : w.files = w'.files

theorem Alike.agree (h : w.Alike w') : w.Agree w' := ⟨h.executor, h.summary, h.files⟩

theorem Agree.symm (h : w.Agree w') : w'.Agree w :=
  ⟨h.commands.symm, h.summary.symm, h.files.symm⟩

/-- What an activity comes to on two displays: the same, unless one of them has an end and the
activity is cut off there. -/
def SameUnlessCutOff (activity : Sink → Workshop (List Call)) (d d' : Sink) : Prop :=
  (activity d).Agree (activity d') ∨
    (d.room ≠ none ∧ (activity d).CutOff (activity d')) ∨
    (d'.room ≠ none ∧ (activity d').CutOff (activity d))

end Workshop

namespace Heedless

open Workshop

variable {α : Type} {act : Act (List Call) α} {plain : Act Unit α}

theorem sameUnlessCutOff (h : Heedless act plain) (files : FileSystem) (d d' : Sink) :
    SameUnlessCutOff (fun display => (act { display, files, executor := [] }).1) d d' := by
  -- a display without an end has room for ever
  have hend : ∀ {d d' : Sink},
      (act { display := d, files, executor := [] }).1.CutOff
        (act { display := d', files, executor := [] }).1 → d.room ≠ none := by
    intro d d' hcut hroom
    obtain ⟨k, hk⟩ := h.room { display := d, files, executor := [] }
    simp [hroom, hcut.room] at hk
  have hstart : ∀ {d d' : Sink}, d.NoRoomier d' →
      Alike { display := d, files, executor := [] } { display := d', files, executor := [] } :=
    fun hroom => ⟨hroom, rfl, rfl, rfl⟩
  rcases d.noRoomier_total d' with hroom | hroom
  · rcases h.tandem (hstart hroom) with ⟨halike, -⟩ | hcut
    · exact .inl halike.agree
    · exact .inr (.inl ⟨hend hcut, hcut⟩)
  · rcases h.tandem (hstart hroom) with ⟨halike, -⟩ | hcut
    · exact .inl halike.agree.symm
    · exact .inr (.inr ⟨hend hcut, hcut⟩)

end Heedless

namespace Workshop

open ChildProcess

/-- Cloning a campaign on two displays, and committing on two displays, runs the same `git` commands
and comes to the same summary and the same files, unless one of the displays runs out of room.  On
that one the commands are the first of those that are run on the other, and not all of them.

That the executor remembers its commands changes nothing else. -/
theorem git_on_displays (spawn : Spawn) (campaign message : String) (repos : List Repository)
    (root : Path) (host : String) (files : FileSystem) (d d' : Sink) :
    let cloned (display : Sink) := clone (remembering spawn) campaign repos root host
      { display, files, executor := [] }
    let committed (display : Sink) := commit (remembering spawn) repos root message
      { display, files, executor := [] }
    SameUnlessCutOff cloned d d' ∧ SameUnlessCutOff committed d d' ∧
      (∀ display, clone (ChildProcess.executor spawn) campaign repos root host
        { display, files, executor := () } = (cloned display).forget) ∧
      ∀ display, commit (ChildProcess.executor spawn) repos root message
        { display, files, executor := () } = (committed display).forget := by
  have hclone := Heedless.forEach (heedless_cloneOne spawn campaign root host) repos
  have hcommit := Heedless.forEach (heedless_commitOne spawn root message) repos
  refine ⟨hclone.sameUnlessCutOff files d d', hcommit.sameUnlessCutOff files d d', ?_, ?_⟩
  · exact fun display =>
      congrArg Prod.fst (hclone.forgets { display, files, executor := [] })
  · exact fun display =>
      congrArg Prod.fst (hcommit.forgets { display, files, executor := [] })

/-- A display with room for one announcement and not for the next: the repository is cloned on it,
but no branch is made, and it counts as an error. -/
theorem git_on_displays_sample :
    let spawn : Spawn := fun request fs =>
      match request.args with
      | ["clone", _, _, name] =>
        match fs.makeDirectory (request.dir / name) with
        | .ok files => .ok { stdout := [], stderr := [], status := .exited 0, files }
        | .error _ => .ok { stdout := [], stderr := [], status := .exited 128, files := fs }
      | _ => .ok { stdout := [], stderr := [], status := .exited 0, files := fs }
    let cloned (display : Sink) := clone (remembering spawn) "topic" [⟨none, "org", "a"⟩] ⟨"work"⟩
      "host" { display, files := {}, executor := [] }
    (cloned {}).summary = { done := 1 } ∧
      (cloned { room := some 90 }).summary = { errored := 1 } ∧
      (cloned { room := some 90 }).executor =
        [Git.call ⟨"work/org"⟩ ["clone", "--", "https://host/org/a.git", "a"]] ∧
      (cloned { room := some 90 }).CutOff (cloned {}) := by
  intro spawn cloned
  have hdone : (cloned {}).summary = { done := 1 } := by decide +kernel
  have herror : (cloned { room := some 90 }).summary = { errored := 1 } := by decide +kernel
  refine ⟨hdone, herror, by decide +kernel, ?_⟩
  obtain ⟨hclone, -⟩ := git_on_displays spawn "topic" "" [⟨none, "org", "a"⟩] ⟨"work"⟩ "host" {}
    { room := some 90 } {}
  rcases hclone with hagree | ⟨-, hcut⟩ | ⟨hend, -⟩
  · have hsame := hagree.summary
    rw [show (clone _ _ _ _ _ _).summary = _ from herror] at hsame
    exact absurd (hsame.trans hdone) (by decide)
  · exact hcut
  · exact absurd rfl hend

end Workshop

end Fleet
