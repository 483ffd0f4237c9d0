import Mathlib.Tactic.Common
import QueryWire.Connection.Cycle

/-!
# Two connections side by side

Two connections are kept in step by a relation that every piece of a call respects.

* `Cycle.Matches` — two cycles that end in the same way.
* `Connection.Simulation` — a relation that beginning, sending, reading a cycle and ending respect.
* `Connection.Simulation.execute` — scripts end in the same way on connections in step.
-/

namespace QueryWire

variable {σ τ α : Type}

/-- Two cycles that end in the same way, with their connections in step. -/
structure Cycle.Matches (S : Connection σ → Connection τ → Prop) (done : Cycle σ α)
    (done' : Cycle τ α) : Prop where
  connection : S done.connection done'.connection
  value : done'.value = done.value
  outcome : done'.outcome = done.outcome

namespace Connection

/-- A relation between connections that every piece of a call respects. -/
structure Simulation (S : Connection σ → Connection τ → Prop) : Prop where
  settings : ∀ {c c'}, S c c' → c'.settings = c.settings
  begin : ∀ {c c'}, S c c' → c'.begin.1 = c.begin.1 ∧ S c.begin.2 c'.begin.2
  send : ∀ {c c'}, S c c' → ∀ request,
    (c'.send request).1 = (c.send request).1 ∧ S (c.send request).2 (c'.send request).2
  drain : ∀ {c c'}, S c c' → ∀ {α : Type} (handle : Handler α) (value : α),
    Cycle.Matches S (c.drain handle value none) (c'.drain handle value none)
  finish : ∀ {c c'}, S c c' → ∀ outcome, S (c.finish outcome) (c'.finish outcome)

variable {S : Connection σ → Connection τ → Prop} {c : Connection σ} {c' : Connection τ}

/-- A cycle is sent and read, or not sent, on both. -/
lemma Simulation.cycle (hS : Simulation S) (h : S c c') (request : Request) (handle : Handler α)
    (value : α) :
    Cycle.Matches S (c.cycle request handle value) (c'.cycle request handle value) := by
  obtain ⟨houtcome, hsent⟩ := hS.send h request
  simp only [Connection.cycle]
  rcases hc : c.send request with ⟨outcome, d⟩
  rcases hc' : c'.send request with ⟨outcome', d'⟩
  rw [hc, hc'] at houtcome hsent
  obtain rfl := houtcome
  cases outcome' with
  | error halt => exact ⟨hsent, rfl, rfl⟩
  | ok done => exact hS.drain hsent handle value

/-- A script ends in the same way on both. -/
lemma Simulation.execute (hS : Simulation S) (h : S c c') (script : String) :
    (c'.execute script).1 = (c.execute script).1
      ∧ S (c.execute script).2 (c'.execute script).2 := by
  obtain ⟨houtcome, hbegun⟩ := hS.begin h
  simp only [Connection.execute]
  rcases hc : c.begin with ⟨outcome, d⟩
  rcases hc' : c'.begin with ⟨outcome', d'⟩
  rw [hc, hc'] at houtcome hbegun
  obtain rfl := houtcome
  cases outcome' with
  | error e => exact ⟨rfl, hbegun⟩
  | ok done =>
    have hd : S d d' := hbegun
    have hcycle := hS.cycle hd (.executeScript d.settings.headers script) scriptReply ()
    simp only [hS.settings hd, hcycle.outcome, true_and]
    exact hS.finish hcycle.connection _

end Connection

end QueryWire
