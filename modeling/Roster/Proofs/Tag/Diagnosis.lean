import Roster.Proofs.Tag.Grammar

/-!
What is wrong with a token list.

The readers nest as deep as the groups of an expression, and a fault ends all of them at
once. What they report can be found in one pass that keeps two things in mind: whether an
operand should stand next or is complete, and how many groups are open (`Counter`).

* `Tree.simulates` : every reader does what the pass does on the tokens that it takes up.
  The call stack of the readers is the depth of the pass.
* `ofTokens_diagnosed` : a token list is accepted by the readers when the pass accepts it,
  and refused for the reason for which the pass refuses it.
-/

namespace Roster.Tag

/-! ### The pass -/

/-- What a pass over a token list waits for. -/
inductive Mode where
  /-- An operand should stand next. -/
  | expected
  /-- An operand is complete. -/
  | complete
  deriving DecidableEq, Repr

/-- What a pass over a token list keeps in mind. -/
structure Counter where
  mode : Mode
  /-- How many groups are open. -/
  depth : Nat
  deriving DecidableEq, Repr

namespace Counter

/-- Before the first token an operand is expected and no group is open. -/
def start : Counter :=
  ⟨.expected, 0⟩

/-- The pass goes on by one token, or finds it out of place. -/
def next : Counter → Token → Except Malformed Counter
  | ⟨.expected, depth⟩, .tag _ => .ok ⟨.complete, depth⟩
  | ⟨.expected, depth⟩, .opening => .ok ⟨.expected, depth + 1⟩
  | ⟨.expected, depth⟩, .not => .ok ⟨.expected, depth⟩
  | ⟨.expected, _⟩, found => .error (.expectedTag found)
  | ⟨.complete, depth⟩, .and => .ok ⟨.expected, depth⟩
  | ⟨.complete, depth⟩, .or => .ok ⟨.expected, depth⟩
  | ⟨.complete, depth + 1⟩, .closing => .ok ⟨.complete, depth⟩
  | ⟨.complete, 0⟩, .closing => .error .parentheses
  | ⟨.complete, 0⟩, before => .error (.missingOperator before)
  | ⟨.complete, _ + 1⟩, _ => .error .parentheses

/-- The pass ends: an operand must be complete and no group open. -/
def finish : Counter → Except Malformed Unit
  | ⟨.expected, _⟩ => .error .expectedTagAtEnd
  | ⟨.complete, 0⟩ => .ok ()
  | ⟨.complete, _ + 1⟩ => .error .parentheses

/-- The pass after some tokens. -/
def after (c : Counter) (ts : List Token) : Except Malformed Counter :=
  ts.foldlM next c

/-- The whole pass over a token list. -/
def run (c : Counter) (ts : List Token) : Except Malformed Unit :=
  c.after ts >>= finish

theorem after_cons (c : Counter) (t : Token) (ts : List Token) :
    c.after (t :: ts) = c.next t >>= fun c' => c'.after ts :=
  List.foldlM_cons

theorem run_cons (c : Counter) (t : Token) (ts : List Token) :
    c.run (t :: ts) = c.next t >>= fun c' => c'.run ts := by
  unfold run
  rw [after_cons, bind_assoc]

end Counter

/-! ### The readers follow the pass -/

/-- The operators that go on with what a rule has read, so that its reader takes them up. -/
def Part.operators : Part → List Token
  | .or => [.and, .or]
  | .and => [.and]
  | .unary | .primary => []

/-- What a reader gives for `ts` is what a pass in this mode finds there: the same fault
at any depth, or else a rest before which an operand is complete, at the depth of the
beginning. The rest does not go on with an operator of `part`. -/
structure Follows (mode : Mode) (ts : List Token) (part : Part)
    (result : Except Malformed (Tree × List Token)) : Prop where
  run : ∀ depth, Counter.run ⟨mode, depth⟩ ts =
    result >>= fun r => Counter.run ⟨.complete, depth⟩ r.2
  stops : ∀ {tree rest}, result = .ok (tree, rest) → ∀ t ∈ part.operators, rest.head? ≠ some t

namespace Follows

variable {mode : Mode} {t : Token} {ts : List Token} {part part' : Part}
  {result : Except Malformed (Tree × List Token)}

/-- A reader that stops at once leaves all tokens, so it must be right to stop. -/
theorem done (tree : Tree) (h : ∀ t ∈ part.operators, ts.head? ≠ some t) :
    Follows .complete ts part (.ok (tree, ts)) where
  run depth := rfl
  stops hok := by
    cases hok
    exact h

theorem fail {reason : Malformed}
    (h : ∀ depth, Counter.run ⟨mode, depth⟩ ts = .error reason) :
    Follows mode ts part (.error reason) where
  run depth := h depth
  stops hok := by cases hok

/-- A token that opens and closes no group. -/
theorem cons (mode' : Mode) (ht : ∀ depth, Counter.next ⟨mode, depth⟩ t = .ok ⟨mode', depth⟩)
    (h : Follows mode' ts part result) : Follows mode (t :: ts) part result where
  run depth := by
    rw [Counter.run_cons, ht, ok_bind]
    exact h.run depth
  stops := h.stops

/-- One reader after another. -/
theorem bind {more : Tree × List Token → Except Malformed (Tree × List Token)}
    (h : Follows mode ts part' result)
    (hmore : ∀ left rest, result = .ok (left, rest) →
      Follows .complete rest part (more (left, rest))) :
    Follows mode ts part (result >>= more) := by
  cases hresult : result with
  | error reason =>
    refine fail fun depth => ?_
    rw [h.run, hresult, error_bind]
  | ok r =>
    have hr := hmore r.1 r.2 hresult
    constructor
    · intro depth
      rw [h.run, hresult, ok_bind, ok_bind]
      exact hr.run depth
    · exact hr.stops

end Follows

namespace Tree

/-- What a rule has read is not empty. -/
theorem Used.length_lt {part : Part} {ts rest : List Token} {tree : Tree}
    (h : Used part [] ts rest tree) : rest.length < ts.length := by
  obtain ⟨us, rfl, derived⟩ := h
  have hne : us ≠ [] := derives_ne_nil derived
  have hpos := List.length_pos_iff.mpr hne
  rw [List.length_append]
  omega

/-- What each reader says of its result when it has `fuel`, and the fuel is enough for the
tokens that it is given. -/
structure Simulates (fuel : Nat) : Prop where
  or : ∀ {ts}, 3 * ts.length + 3 ≤ fuel → Follows .expected ts .or (readOr fuel ts)
  moreOr : ∀ {left ts}, 3 * ts.length ≤ fuel → ts.head? ≠ some .and →
    Follows .complete ts .or (extendOr fuel left ts)
  and : ∀ {ts}, 3 * ts.length + 2 ≤ fuel → Follows .expected ts .and (readAnd fuel ts)
  moreAnd : ∀ {left ts}, 3 * ts.length ≤ fuel →
    Follows .complete ts .and (extendAnd fuel left ts)
  unary : ∀ {ts}, 3 * ts.length + 1 ≤ fuel → Follows .expected ts .unary (readUnary fuel ts)

/-- Alternatives that end here. -/
theorem follows_extendOr {ts : List Token} (hor : ts.head? ≠ some .or)
    (hand : ts.head? ≠ some .and) (fuel : Nat) (left : Tree) :
    Follows .complete ts .or (extendOr fuel left ts) := by
  rw [extendOr_of_ne hor]
  refine .done left ?_
  intro t ht
  cases ht with
  | head => exact hand
  | tail _ ht =>
    rw [List.mem_singleton.mp ht]
    exact hor

/-- Operands that end here. -/
theorem follows_extendAnd {ts : List Token} (hand : ts.head? ≠ some .and) (fuel : Nat)
    (left : Tree) : Follows .complete ts .and (extendAnd fuel left ts) := by
  rw [extendAnd_of_ne hand]
  refine .done left ?_
  intro t ht
  rwa [List.mem_singleton.mp ht]

/-- A group is read one level deeper, and the parenthesis that closes it leads back. -/
theorem follows_group {fuel : Nat} {ts : List Token}
    (h : Follows .expected ts .or (readOr fuel ts)) :
    Follows .expected (.opening :: ts) .unary (readUnary (fuel + 1) (.opening :: ts)) := by
  rw [readUnary]
  constructor
  · intro depth
    rw [Counter.run_cons, Counter.next, ok_bind, h.run]
    cases hread : readOr fuel ts with
    | error reason => rfl
    | ok r =>
      obtain ⟨inner, rest⟩ := r
      have hstops := h.stops hread
      rw [ok_bind, ok_bind]
      cases rest with
      | nil => rfl
      | cons t rest =>
        rw [Counter.run_cons]
        cases t with
        | closing => rfl
        | and => exact absurd rfl (hstops .and (by simp [Part.operators]))
        | or => exact absurd rfl (hstops .or (by simp [Part.operators]))
        | tag name => rfl
        | not => rfl
        | opening => rfl
  · intro tree rest _ t ht
    cases ht

theorem simulates_zero : Simulates 0 where
  or h := by omega
  moreOr {left ts} h _ := by
    obtain rfl : ts = [] := List.length_eq_zero_iff.mp (by omega)
    exact follows_extendOr (by simp) (by simp) 0 left
  and h := by omega
  moreAnd {left ts} h := by
    obtain rfl : ts = [] := List.length_eq_zero_iff.mp (by omega)
    exact follows_extendAnd (by simp) 0 left
  unary h := by omega

theorem simulates_succ {fuel : Nat} (ih : Simulates fuel) : Simulates (fuel + 1) where
  or {ts} hfuel := by
    have hand : Follows .expected ts .and (readAnd fuel ts) := ih.and (by omega)
    rw [readOr]
    refine hand.bind ?_
    intro left rest hread
    have hlt := ((sound fuel).and hread).length_lt
    exact ih.moreOr (by omega) (hand.stops hread .and (by simp [Part.operators]))
  moreOr {left ts} hfuel hhead := by
    by_cases hor : ts.head? = some .or
    · obtain ⟨ts, rfl⟩ := List.head?_eq_some_iff.mp hor
      rw [List.length_cons] at hfuel
      have hand : Follows .expected ts .and (readAnd fuel ts) := ih.and (by omega)
      rw [extendOr_or]
      refine .cons .expected (fun _ => rfl) (hand.bind ?_)
      intro right rest hread
      have hlt := ((sound fuel).and hread).length_lt
      exact ih.moreOr (by omega) (hand.stops hread .and (by simp [Part.operators]))
    · exact follows_extendOr hor hhead _ left
  and {ts} hfuel := by
    have hunary : Follows .expected ts .unary (readUnary fuel ts) := ih.unary (by omega)
    rw [readAnd]
    refine hunary.bind ?_
    intro left rest hread
    have hlt := ((sound fuel).unary hread).length_lt
    exact ih.moreAnd (by omega)
  moreAnd {left ts} hfuel := by
    by_cases hand : ts.head? = some .and
    · obtain ⟨ts, rfl⟩ := List.head?_eq_some_iff.mp hand
      rw [List.length_cons] at hfuel
      have hunary : Follows .expected ts .unary (readUnary fuel ts) := ih.unary (by omega)
      rw [extendAnd_and]
      refine .cons .expected (fun _ => rfl) (hunary.bind ?_)
      intro right rest hread
      have hlt := ((sound fuel).unary hread).length_lt
      exact ih.moreAnd (by omega)
    · exact follows_extendAnd hand _ left
  unary {ts} hfuel := by
    cases ts with
    | nil =>
      refine .fail ?_
      intro depth
      rfl
    | cons t ts =>
      rw [List.length_cons] at hfuel
      cases t with
      | tag name =>
        refine .cons .complete (fun _ => rfl) (.done _ ?_)
        intro t ht
        cases ht
      | not =>
        rw [readUnary]
        refine .cons .expected (fun _ => rfl) ((ih.unary (by omega)).bind ?_)
        intro inner rest _
        refine .done _ ?_
        intro t ht
        cases ht
      | opening => exact follows_group (ih.or (by omega))
      | and | or | closing =>
        refine .fail ?_
        intro depth
        rfl

/-- With enough fuel every reader follows the pass. -/
theorem simulates (fuel : Nat) : Simulates fuel := by
  induction fuel with
  | zero => exact simulates_zero
  | succ fuel ih => exact simulates_succ ih

/-- Reading a whole token list comes to what the pass over it comes to. -/
theorem map_ofTokens (ts : List Token) :
    (ofTokens ts).map (fun _ => ()) = Counter.start.run ts := by
  have hfuel : 3 * ts.length + 3 ≤ fuelFor ts.length := by
    unfold fuelFor
    omega
  have hfollows := (simulates (fuelFor ts.length)).or hfuel
  rw [ofTokens, Counter.start, hfollows.run]
  cases hread : readOr (fuelFor ts.length) ts with
  | error reason => rfl
  | ok r =>
    obtain ⟨tree, rest⟩ := r
    have hstops := hfollows.stops hread
    rw [ok_bind, ok_bind]
    cases rest with
    | nil => rfl
    | cons t rest =>
      rw [Counter.run_cons]
      cases t with
      | and => exact absurd rfl (hstops .and (by simp [Part.operators]))
      | or => exact absurd rfl (hstops .or (by simp [Part.operators]))
      | closing => rfl
      | tag name => rfl
      | not => rfl
      | opening => rfl

end Tree

theorem Malformed.message_expectedTag (found : Token) : (expectedTag found).message =
    "expected a tag name, found '" ++ found.text ++ "'" :=
  rfl

theorem Malformed.message_missingOperator (before : Token) : (missingOperator before).message =
    "missing logical operator before '" ++ before.text ++ "'" :=
  rfl

/-- **One pass finds what the readers find.** The readers accept a token list exactly when the
pass does, and refuse any other for the reason for which the pass refuses it: a token that
stands where an operand should, or the end; an operand that follows another one outside of
all groups; and for the parentheses, a group that is not closed, whatever goes on in it where
it should close, or a parenthesis that closes none. -/
theorem ofTokens_diagnosed (ts : List Token) :
    ((∃ tree, Tree.ofTokens ts = .ok tree) ↔ Counter.start.run ts = .ok ()) ∧
      (∀ reason, Tree.ofTokens ts = .error reason ↔ Counter.start.run ts = .error reason) ∧
      Malformed.parentheses.message = "missing parentheses" ∧
      Malformed.expectedTagAtEnd.message = "expected a tag name at end of expression" ∧
      ∀ token : Token,
        (Malformed.expectedTag token).message =
          "expected a tag name, found '" ++ token.text ++ "'" ∧
        (Malformed.missingOperator token).message =
          "missing logical operator before '" ++ token.text ++ "'" := by
  rw [← Tree.map_ofTokens]
  refine ⟨?_, ?_, rfl, rfl, fun token => ⟨Malformed.message_expectedTag token,
    Malformed.message_missingOperator token⟩⟩
  · rw [map_eq_ok_iff]
    simp
  · intro reason
    exact map_eq_error_iff.symm

end Roster.Tag
