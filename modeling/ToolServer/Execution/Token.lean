/-
Cancellation tokens:

* `Token`: a token with a name, or a child of a token;
* `Token.isCancelled`: whether the token or one above it has been fired;
* `isCancelled_mono`: firing more tokens cancels no fewer;
* `isCancelled_child`: a child is cancelled by itself or through its parent.
-/

namespace ToolServer.Execution

/-- A cancellation token. -/
inductive Token
  /-- A token of its own. -/
  | named (name : String)
  /-- A child of a token, told apart from its siblings by a number. -/
  | child (parent : Token) (index : Nat)
  deriving DecidableEq, Repr, Inhabited

namespace Token

/-- Whether a token is cancelled once the tokens in `fired` have been fired. -/
def isCancelled (fired : List Token) : Token → Bool
  | .named name => fired.contains (.named name)
  | .child parent index =>
    fired.contains (.child parent index) || parent.isCancelled fired

/-- A token that has been fired is cancelled. -/
theorem isCancelled_of_mem {fired : List Token} {t : Token} (h : t ∈ fired) :
    t.isCancelled fired = true := by
  cases t <;> simp [isCancelled, h]

/-- A child of a cancelled token is cancelled. -/
theorem isCancelled_child {fired : List Token} {t : Token} (i : Nat)
    (h : t.isCancelled fired = true) : (child t i).isCancelled fired = true := by
  simp [isCancelled, h]

/-- Firing more tokens cancels no fewer. -/
theorem isCancelled_mono {fired more : List Token} (sub : fired ⊆ more) {t : Token}
    (h : t.isCancelled fired = true) : t.isCancelled more = true := by
  induction t with
  | named name =>
    simp only [isCancelled, List.contains_iff_mem] at h ⊢
    exact sub h
  | child parent index ih =>
    simp only [isCancelled, List.contains_iff_mem, Bool.or_eq_true] at h ⊢
    exact h.imp (fun m => sub m) ih

end Token

end ToolServer.Execution
