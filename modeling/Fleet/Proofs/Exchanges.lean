import Fleet.Proofs.GitDisplay
import Fleet.Proofs.Turns

namespace Fleet

/-! # Commands and what they come to

An `Exchange` is a command that was run together with what it came to, and `Executor.witnessed` is
an executor that remembers its exchanges.  Remembering changes nothing else, and what is remembered
can be told part by part: `Act.Exchanges` says so of an act and a workshop, for each of the parts
that an act is made of.

So a walk over repositories is one turn after the other, each with the exchanges that were made and
with what it was counted as (`Workshop.turns_forEach`).
-/

/-- A command that was run, and what it came to. -/
inductive Exchange where
  | executed (request : Request) (answer : Except Error Unit)
  | captured (request : Request) (answer : Except Error String)

namespace Exchange

/-- The command of an exchange. -/
def request : Exchange → Request
  | executed request _ | captured request _ => request

end Exchange

namespace Executor

variable {σ : Type}

/-- The same executor, which also remembers its exchanges, latest first. -/
def witnessed (x : Executor σ) : Executor (σ × List Exchange) where
  execute request state fs := do
    let (answer, s, fs) ← x.execute request state.1 fs
    return (answer, (s, .executed request answer :: state.2), fs)
  capture request state fs := do
    let (answer, s, fs) ← x.capture request state.1 fs
    return (answer, (s, .captured request answer :: state.2), fs)

end Executor

namespace Workshop

variable {σ : Type}

/-- A workshop whose executor remembers exchanges, latest first. -/
def withHistory (w : Workshop σ) (history : List Exchange) : Workshop (σ × List Exchange) :=
  ⟨w.display, w.files, (w.executor, history), w.summary⟩

end Workshop

/-! ## The exchanges of an act -/

namespace Act

variable {σ α β : Type}

/-- What is exchanged when an act is done in a workshop.  If the executor remembers its exchanges,
the same is done, and these are remembered behind all from before. -/
structure Exchanges (act : Act (σ × List Exchange) α) (plain : Act σ α) (w : Workshop σ)
    (made : List Exchange) : Prop where
  remembered : ∀ history, act (w.withHistory history) =
    ((plain w).1.withHistory (made.reverse ++ history), (plain w).2)
  /-- nothing is counted on the way -/
  summary : (plain w).1.summary = w.summary

namespace Exchanges

variable {act act' : Act (σ × List Exchange) α} {plain plain' : Act σ α} {w : Workshop σ}
  {made made' : List Exchange}

theorem done (a : α) : Exchanges (Act.done a) (Act.done a) w [] := ⟨fun _ => rfl, rfl⟩

theorem tell (line : String) (a : α) : Exchanges (Act.tell line a) (Act.tell line a) w [] :=
  ⟨fun _ => rfl, rfl⟩

theorem change (f : FileSystem → FileSystem × α) :
    Exchanges (Act.change f) (Act.change f) w [] := ⟨fun _ => rfl, rfl⟩

/-- What is exchanged first stands in front of what is exchanged then. -/
theorem andThen (h : Exchanges act plain w made) {a : α} {w' : Workshop σ}
    (hresult : plain w = (w', a)) {next : α → Act (σ × List Exchange) β}
    {plainNext : α → Act σ β} (h' : Exchanges (next a) (plainNext a) w' made') :
    Exchanges (act.andThen next) (plain.andThen plainNext) w (made ++ made') where
  remembered history := by
    rw [Act.andThen, h.remembered, Act.andThen, hresult, h'.remembered, List.reverse_append,
      List.append_assoc]
  summary := by
    rw [Act.andThen, hresult, h'.summary, ← h.summary, hresult]

/-- A line is written first. -/
theorem afterTell {line : String} {a : α} {next : α → Act (σ × List Exchange) β}
    {plainNext : α → Act σ β} (h : Exchanges (next a) (plainNext a) (w.say line) made) :
    Exchanges ((Act.tell line a).andThen next) ((Act.tell line a).andThen plainNext) w made :=
  (tell line a).andThen rfl h

theorem choose_of_holds {holds : FileSystem → Bool} (hholds : holds w.files = true)
    (h : Exchanges act plain w made) :
    Exchanges (act.choose holds act') (plain.choose holds plain') w made where
  remembered history := by
    have hstill : holds (w.withHistory history).files = true := hholds
    rw [choose_eq, choose_eq, if_pos hholds, if_pos hstill, h.remembered]
  summary := by rw [choose_eq, if_pos hholds, h.summary]

theorem choose_of_not {holds : FileSystem → Bool} (hholds : holds w.files = false)
    (h : Exchanges act' plain' w made) :
    Exchanges (act.choose holds act') (plain.choose holds plain') w made where
  remembered history := by
    have hnot : holds (w.withHistory history).files = false := hholds
    rw [choose_eq, choose_eq, hholds, hnot]
    exact h.remembered history
  summary := by
    rw [choose_eq, hholds]
    exact h.summary

theorem finish {act : Act (σ × List Exchange) (Except Error Unit)}
    {plain : Act σ (Except Error Unit)} (h : Exchanges act plain w made)
    (complaint : Error → String) :
    Exchanges (act.finish complaint) (plain.finish complaint) w made := by
  rw [← List.append_nil made]
  rcases hresult : plain w with ⟨w', e | ⟨⟨⟩⟩⟩
  · exact h.andThen hresult (tell (complaint e) Outcome.failed)
  · exact h.andThen hresult (done Outcome.succeeded)

/-- A command whose output goes to the display is one exchange. -/
theorem execute (x : Executor σ) (request : Request) (w : Workshop σ) :
    Exchanges (ask (x.witnessed.execute request)) (ask (x.execute request)) w
      [.executed request (ask (x.execute request) w).2] where
  remembered history := by
    simp only [ask, Executor.witnessed, Workshop.withHistory, Talk.on_bind]
    rfl
  summary := rfl

/-- A command whose output is kept is one exchange. -/
theorem capture (x : Executor σ) (request : Request) (w : Workshop σ) :
    Exchanges (ask (x.witnessed.capture request)) (ask (x.capture request)) w
      [.captured request (ask (x.capture request) w).2] where
  remembered history := by
    simp only [ask, Executor.witnessed, Workshop.withHistory, Talk.on_bind]
    rfl
  summary := rfl

end Exchanges

theorem andThen_of_eq {act : Act σ α} {next : α → Act σ β} {w w' : Workshop σ} {a : α}
    (h : act w = (w', a)) : act.andThen next w = next a w' := by rw [andThen, h]

theorem andThen_tell (line : String) (a : α) (next : α → Act σ β) (w : Workshop σ) :
    (tell line a).andThen next w = next a (w.say line) := rfl

/-- An act that is finished counts by its answer. -/
theorem finish_snd (act : Act σ (Except Error Unit)) (complaint : Error → String)
    (w : Workshop σ) : (act.finish complaint w).2 = .ofAnswer (act w).2 := by
  rw [finish_eq]
  rcases act w with ⟨w', e | ⟨⟨⟩⟩⟩
  · rfl
  · rfl

end Act

/-! ## A walk over repositories -/

namespace Workshop

/-- What happened in the turn of a repository: its exchanges, in order, and what it counted as. -/
structure Turn where
  exchanges : List Exchange
  outcome : Outcome

/-- How many turns counted as what. -/
def tally (turns : List Turn) : Summary :=
  let outcomes := turns.map (·.outcome)
  ⟨outcomes.count .succeeded, outcomes.count .skipped, outcomes.count .failed⟩

/-- Every turn counts once. -/
theorem total_tally (turns : List Turn) :
    (tally turns).done + (tally turns).skipped + (tally turns).errored = turns.length := by
  induction turns with
  | nil => rfl
  | cons turn rest ih =>
    simp only [tally, List.map_cons, List.count_cons, List.length_cons] at ih ⊢
    cases turn.outcome <;> simp <;> omega

theorem foldl_add_eq_tally (turns : List Turn) (s : Summary) :
    turns.foldl (fun s t => s.add t.outcome) s =
      ⟨s.done + (tally turns).done, s.skipped + (tally turns).skipped,
        s.errored + (tally turns).errored⟩ := by
  induction turns generalizing s with
  | nil => rfl
  | cons turn rest ih =>
    rw [List.foldl_cons, ih]
    cases ho : turn.outcome <;> simp [Summary.add, tally, ho, Nat.add_assoc, Nat.add_comm 1]

/-- All exchanges of some turns, in order. -/
def exchangesOf (turns : List Turn) : List Exchange := (turns.map (·.exchanges)).flatten

variable {σ : Type} {take : Workshop (σ × List Exchange) → Repository →
    Workshop (σ × List Exchange) × Outcome}
  {plain : Workshop σ → Repository → Workshop σ × Outcome}

/-- The turn of a repository, counted. -/
def counted (plain : Workshop σ → Repository → Workshop σ × Outcome) (repo : Repository)
    (w : Workshop σ) : Workshop σ :=
  { (plain w repo).1 with summary := (plain w repo).1.summary.add (plain w repo).2 }

theorem forEach_cons (repo : Repository) (rest : List Repository) (w : Workshop σ) :
    forEach plain (repo :: rest) w = forEach plain rest (counted plain repo w) := by
  rw [forEach, List.foldl_cons, forEach, counted]

theorem counted_withHistory {repo : Repository} {w : Workshop σ} {made : List Exchange}
    (h : Act.Exchanges (take · repo) (plain · repo) w made) (history : List Exchange) :
    counted take repo (w.withHistory history) =
      (counted plain repo w).withHistory (made.reverse ++ history) := by
  rw [counted, h.remembered, counted]
  rfl

/-- A walk is one turn after the other.  Each turn meets the files as those before it have left
them; what holds of every turn holds of it there. -/
theorem turns_forEach {Holds : FileSystem → Repository → List Exchange → Outcome → Prop}
    (hturn : ∀ repo w, ∃ made, Act.Exchanges (take · repo) (plain · repo) w made ∧
      Holds w.files repo made (plain w repo).2)
    (repos : List Repository) (w : Workshop σ) :
    ∃ turns : List Turn, turns.length = repos.length ∧
      (∀ history, forEach take repos (w.withHistory history) =
        (forEach plain repos w).withHistory ((exchangesOf turns).reverse ++ history)) ∧
      (forEach plain repos w).summary = turns.foldl (fun s t => s.add t.outcome) w.summary ∧
      ∀ k (hk : k < repos.length) (ht : k < turns.length),
        Holds (forEach plain (repos.take k) w).files repos[k] turns[k].exchanges turns[k].outcome ∧
          (forEach plain (repos.take (k + 1)) w).summary =
            (forEach plain (repos.take k) w).summary.add turns[k].outcome := by
  induction repos generalizing w with
  | nil => exact ⟨[], rfl, fun _ => rfl, rfl, fun k hk => absurd hk (Nat.not_lt_zero k)⟩
  | cons repo rest ih =>
    obtain ⟨made, hmade, hholds⟩ := hturn repo w
    obtain ⟨turns, hlength, hhistory, hsummary, hturns⟩ := ih (counted plain repo w)
    have hcounted : (counted plain repo w).summary = w.summary.add (plain w repo).2 :=
      congrArg (fun s : Summary => s.add _) hmade.summary
    refine ⟨⟨made, (plain w repo).2⟩ :: turns, by simp [hlength], fun history => ?_, ?_, ?_⟩
    · rw [forEach_cons, forEach_cons, counted_withHistory hmade, hhistory]
      simp [exchangesOf]
    · rw [forEach_cons, hsummary, hcounted, List.foldl_cons]
    · intro k hk ht
      cases k with
      | zero => exact ⟨hholds, hcounted⟩
      | succ k =>
        simp only [List.take_succ_cons, forEach_cons, List.getElem_cons_succ]
        exact hturns k (by simpa using hk) (by simpa using ht)

/-- From a workshop in which nothing has been counted, a walk exchanges what its turns do, in order,
and its summary counts them. -/
theorem turns_of_start {Holds : FileSystem → Repository → List Exchange → Outcome → Prop}
    (hturn : ∀ repo w, ∃ made, Act.Exchanges (take · repo) (plain · repo) w made ∧
      Holds w.files repo made (plain w repo).2)
    (repos : List Repository) {w : Workshop σ} (hstart : w.summary = {}) :
    ∃ turns : List Turn, turns.length = repos.length ∧
      forEach take repos (w.withHistory []) =
        (forEach plain repos w).withHistory (exchangesOf turns).reverse ∧
      (forEach plain repos w).summary = tally turns ∧
      (tally turns).done + (tally turns).skipped + (tally turns).errored = repos.length ∧
      ∀ k (hk : k < repos.length) (ht : k < turns.length),
        Holds (forEach plain (repos.take k) w).files repos[k] turns[k].exchanges turns[k].outcome ∧
          (forEach plain (repos.take (k + 1)) w).summary =
            (forEach plain (repos.take k) w).summary.add turns[k].outcome := by
  obtain ⟨turns, hlength, hhistory, hsummary, hturns⟩ := turns_forEach hturn repos w
  refine ⟨turns, hlength, ?_, ?_, (total_tally turns).trans hlength, hturns⟩
  · rw [hhistory, List.append_nil]
  · rw [hsummary, foldl_add_eq_tally, hstart]
    simp

end Workshop

end Fleet
