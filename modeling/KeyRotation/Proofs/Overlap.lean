import Mathlib.Logic.Function.Basic
import KeyRotation.Proofs.Trace

/-! Runs that share a world. Whoever has the turn gets its next call answered, and between two
calls others may do anything to the world. What one run is told meanwhile is one of the ways in
which its own session can go, so what holds of a session in every world holds of it here. -/
namespace KeyRotation

/-- Whose turn it is: that of a run, or of somebody outside who changes the world. -/
inductive Turn (ι σ : Type) where
  | run (who : ι)
  | outside (change : σ → σ)

structure Moment (ι σ : Type) where
  who : ι
  found : σ
  event : Event

/-- Runs, each as far as it has got, and the state of the world they share. -/
structure Shared (ι σ α : Type) where
  runs : ι → Session α
  state : σ

namespace Shared

variable {ι σ α : Type} [DecidableEq ι]

def moment? (world : World σ) (shared : Shared ι σ α) : Turn ι σ → Option (Moment ι σ)
  | .outside _ => none
  | .run who =>
    match shared.runs who with
    | .done _ => none
    | .call request _ => some ⟨who, shared.state, .of request (world shared.state request).1⟩

/-- One turn. A run that is over lets it pass. -/
def advance (world : World σ) (shared : Shared ι σ α) : Turn ι σ → Shared ι σ α
  | .outside change => { shared with state := change shared.state }
  | .run who =>
    match shared.runs who with
    | .done _ => shared
    | .call request resume =>
      let (reply, state) := world shared.state request
      ⟨Function.update shared.runs who (resume reply), state⟩

def after (world : World σ) : List (Turn ι σ) → Shared ι σ α → Shared ι σ α
  | [], shared => shared
  | turn :: turns, shared => after world turns (shared.advance world turn)

/-- The calls that some turns have answered, in order. -/
def moments (world : World σ) : List (Turn ι σ) → Shared ι σ α → List (Moment ι σ)
  | [], _ => []
  | turn :: turns, shared =>
    (shared.moment? world turn).toList ++ moments world turns (shared.advance world turn)

def own (world : World σ) (turns : List (Turn ι σ)) (shared : Shared ι σ α) (who : ι) :
    List (Moment ι σ) :=
  (shared.moments world turns).filter (·.who = who)

theorem advance_cases (world : World σ) (shared : Shared ι σ α) (turn : Turn ι σ) :
    (shared.moment? world turn = none ∧ (shared.advance world turn).runs = shared.runs ∧
      (∀ who, turn = .run who → shared.advance world turn = shared)) ∨
    ∃ who request resume, turn = .run who ∧ shared.runs who = .call request resume ∧
      shared.moment? world turn =
        some ⟨who, shared.state, .of request (world shared.state request).1⟩ ∧
      (shared.advance world turn).runs =
        Function.update shared.runs who (resume (world shared.state request).1) ∧
      (shared.advance world turn).state = (world shared.state request).2 := by
  cases turn with
  | outside change => exact .inl ⟨rfl, rfl, nofun⟩
  | run who =>
    unfold moment? advance
    cases next : shared.runs who with
    | done value => simp [next]
    | call request resume =>
      exact .inr ⟨who, request, resume, rfl, next, by simp [next], by simp [next], by simp [next]⟩

theorem after_append (world : World σ) (first second : List (Turn ι σ)) (shared : Shared ι σ α) :
    shared.after world (first ++ second) = (shared.after world first).after world second := by
  induction first generalizing shared with
  | nil => rfl
  | cons turn rest ih => exact ih _

theorem answered {world : World σ} {turns : List (Turn ι σ)} {shared : Shared ι σ α}
    {moment : Moment ι σ} (member : moment ∈ shared.moments world turns) :
    Event.of moment.event.call (world moment.found moment.event.call).1 = moment.event := by
  induction turns generalizing shared with
  | nil => cases member
  | cons turn turns ih =>
    rcases List.mem_append.1 member with first | later
    · rcases shared.advance_cases world turn with
        ⟨idle, -⟩ | ⟨who, request, resume, -, -, answer, -, -⟩
      · simp [idle] at first
      · obtain rfl : moment = _ := by simpa [answer] using first
        cases request <;> rfl
    · exact ih later

/-- What a run was told so far, and whatever it is told from then on, is a way in which its
session can go. -/
theorem runs_own {world : World σ} {turns : List (Turn ι σ)} {shared : Shared ι σ α} {who : ι}
    {more : List Event} {result : α}
    (rest : ((shared.after world turns).runs who).Runs more result) :
    (shared.runs who).Runs ((shared.own world turns who).map Moment.event ++ more) result := by
  induction turns generalizing shared with
  | nil => exact rest
  | cons turn turns ih =>
    have later := ih rest
    rcases shared.advance_cases world turn with
      ⟨idle, same, -⟩ | ⟨other, request, resume, -, next, answer, moved, -⟩
    · rw [same] at later
      simpa [own, moments, idle] using later
    · rw [moved] at later
      by_cases mine : other = who
      · subst mine
        rw [Function.update_self] at later
        rw [next]
        refine ⟨_, _, ?_, later⟩
        simp [own, moments, answer]
      · rw [Function.update_of_ne (Ne.symm mine)] at later
        simpa [own, moments, answer, mine] using later

/-- A run's own call, among the calls of all. -/
theorem own_split {world : World σ} {turns : List (Turn ι σ)} {shared : Shared ι σ α} {who : ι}
    {before rest : List (Moment ι σ)} {moment : Moment ι σ}
    (split : shared.own world turns who = before ++ moment :: rest) :
    ∃ first later, shared.moments world turns = first ++ moment :: later ∧ rest ⊆ later := by
  obtain ⟨early, late, whole, -, tail⟩ := List.filter_eq_append_iff.1 split
  obtain ⟨more, later, rfl, -, -, filtered⟩ := List.filter_eq_cons_iff.1 tail
  refine ⟨early ++ more, later, by rw [whole, List.append_assoc], ?_⟩
  exact filtered ▸ List.filter_sublist.subset

section Schedule

variable {world : World σ} {schedule : List ι} {shared : Shared ι σ α}

theorem path_moments :
    world.Path shared.state ((shared.moments world (schedule.map .run)).map Moment.event)
      (shared.after world (schedule.map .run)).state := by
  induction schedule generalizing shared with
  | nil => rfl
  | cons who rest ih =>
    have later := @ih (shared.advance world (.run who))
    rcases shared.advance_cases world (.run who) with
      ⟨idle, -, same⟩ | ⟨_, request, _, -, -, answer, -, moved⟩
    · rw [same who rfl] at later
      simpa [moments, after, idle, same who rfl] using later
    · rw [moved] at later
      simp only [List.map_cons, moments, answer, Option.toList_some, List.singleton_append]
      cases request <;> exact ⟨rfl, later⟩

theorem path_split {before later : List (Moment ι σ)} {moment : Moment ι σ}
    (split : shared.moments world (schedule.map .run) = before ++ moment :: later) :
    world.Path shared.state (before.map Moment.event) moment.found ∧
      world.Path moment.found (moment.event :: later.map Moment.event)
        (shared.after world (schedule.map .run)).state := by
  induction schedule generalizing shared before with
  | nil => simp [moments] at split
  | cons who rest ih =>
    have whole := @path_moments _ _ _ _ world (who :: rest) shared
    simp only [List.map_cons, moments, after] at split whole ⊢
    rcases shared.advance_cases world (.run who) with
      ⟨idle, -, same⟩ | ⟨_, request, _, -, -, answer, -, moved⟩
    · simp only [idle, same who rfl, Option.toList_none, List.nil_append] at split ⊢
      exact ih split
    · simp only [answer, Option.toList_some, List.singleton_append] at split whole
      cases before with
      | nil =>
        obtain ⟨rfl, rfl⟩ := List.cons.inj split
        exact ⟨rfl, whole⟩
      | cons first before =>
        obtain ⟨rfl, tail⟩ := List.cons.inj split
        obtain ⟨left, right⟩ := ih tail
        rw [moved] at left
        cases request <;> exact ⟨⟨rfl, left⟩, right⟩

end Schedule

end Shared
end KeyRotation
