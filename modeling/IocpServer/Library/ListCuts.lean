import Mathlib.Data.List.Perm.Basic
import Mathlib.Data.List.Forall2

/-!
# Cutting lists

A bag of pending items is a list from which any position can be taken.  A
stream is the concatenation of its pieces; two ways to cut it agree as soon
as no piece of the one is shorter than its partner in the other.
-/

namespace IocpServer.Library

universe u v

variable {Item : Type u}

/-- The item found at a position, and the list without that position. -/
theorem perm_cons_eraseIdx
    {items : List Item} {index : Nat} {item : Item}
    (found : items[index]? = some item) :
    (item :: items.eraseIdx index).Perm items := by
  rcases List.getElem?_eq_some_iff.mp found with ⟨bound, atIndex⟩
  have rearranged := List.getElem_cons_eraseIdx_perm bound
  rw [atIndex] at rearranged
  exact rearranged

/-- A position is taken out of two lists at once. -/
theorem eraseIdx_zip_eraseIdx
    {Other : Type v} (items : List Item) (others : List Other)
    (index : Nat) :
    (items.eraseIdx index).zip (others.eraseIdx index) =
      (items.zip others).eraseIdx index := by
  induction items generalizing others index with
  | nil => rfl
  | cons item rest induction =>
      cases others with
      | nil => rw [List.eraseIdx_nil, List.zip_nil_right, List.zip_nil_right,
          List.eraseIdx_nil]
      | cons other others =>
          cases index with
          | zero => rfl
          | succ index =>
              exact congrArg ((item, other) :: ·) (induction others index)

/-- A comparison of prefixes, part by part. -/
theorem append_prefix_append_iff
    {left right first second : List Item}
    (sameLength : left.length = right.length) :
    left ++ first <+: right ++ second ↔
      left = right ∧ first <+: second := by
  constructor
  · rintro ⟨rest, equal⟩
    rw [List.append_assoc] at equal
    rcases List.append_inj equal sameLength with ⟨rfl, remaining⟩
    exact ⟨rfl, rest, remaining⟩
  · rintro ⟨rfl, rest, rfl⟩
    exact ⟨rest, by rw [List.append_assoc]⟩

/-- Two places at which a list has a separator. -/
theorem separated_eq_iff
    {separator : Item} {front back otherFront otherBack : List Item} :
    front ++ separator :: back = otherFront ++ separator :: otherBack ↔
      (front = otherFront ∧ back = otherBack) ∨
        (∃ middle,
          otherFront = front ++ separator :: middle ∧
            back = middle ++ separator :: otherBack) ∨
          ∃ middle,
            front = otherFront ++ separator :: middle ∧
              otherBack = middle ++ separator :: back := by
  constructor
  · intro same
    rcases List.append_eq_append_iff.mp same with
      ⟨rest, longer, tail⟩ | ⟨rest, longer, tail⟩
    · cases rest with
      | nil =>
          rw [List.append_nil] at longer
          exact .inl ⟨longer.symm, (List.cons.inj tail).2⟩
      | cons head middle =>
          rcases List.cons.inj tail with ⟨rfl, back⟩
          exact .inr (.inl ⟨middle, longer, back⟩)
    · cases rest with
      | nil =>
          rw [List.append_nil] at longer
          exact .inl ⟨longer, (List.cons.inj tail).2.symm⟩
      | cons head middle =>
          rcases List.cons.inj tail with ⟨rfl, back⟩
          exact .inr (.inr ⟨middle, longer, back⟩)
  · rintro (⟨rfl, rfl⟩ | ⟨middle, rfl, rfl⟩ | ⟨middle, rfl, rfl⟩)
    · rfl
    · simp
    · simp

/-- Pieces that are not shorter than their partners are longer together. -/
theorem flatten_length_le
    {longer shorter : List (List Item)}
    (lengths :
      List.Forall₂
        (fun first second : List Item => second.length ≤ first.length)
        longer shorter) :
    shorter.flatten.length ≤ longer.flatten.length := by
  induction lengths with
  | nil => exact Nat.le_refl _
  | cons head _ induction =>
      rw [List.flatten_cons, List.flatten_cons, List.length_append,
        List.length_append]
      exact Nat.add_le_add head induction

/--
Two ways to cut one stream agree when no piece of the first is shorter than
its partner in the second.
-/
theorem cuts_eq_of_length_le
    {longer shorter : List (List Item)}
    (lengths :
      List.Forall₂
        (fun first second : List Item => second.length ≤ first.length)
        longer shorter)
    (sameStream : longer.flatten = shorter.flatten) :
    longer = shorter := by
  induction lengths with
  | nil => rfl
  | cons head rest induction =>
      have total := congrArg List.length sameStream
      have restLonger := flatten_length_le rest
      simp only [List.flatten_cons, List.length_append] at total
      rw [List.flatten_cons, List.flatten_cons] at sameStream
      rcases List.append_inj sameStream (by omega) with
        ⟨rfl, remaining⟩
      rw [induction remaining]

/-- Lists related through a list in between, of which both know a part. -/
theorem exists_forall₂_map_eq_iff
    {Source Middle Target View : Type*}
    {related : Source → Middle → Prop}
    {view : Middle → View} {expected : Target → View}
    {sources : List Source} {targets : List Target} :
    (∃ middles,
        List.Forall₂ related sources middles ∧
          middles.map view = targets.map expected) ↔
      List.Forall₂
        (fun source target =>
          ∃ middle, related source middle ∧ view middle = expected target)
        sources targets := by
  constructor
  · rintro ⟨middles, links, equal⟩
    induction links generalizing targets with
    | nil =>
        rw [List.map_nil, eq_comm, List.map_eq_nil_iff] at equal
        rw [equal]
        exact .nil
    | @cons source middle _ _ head _ induction =>
        cases targets with
        | nil => cases equal
        | cons target rest =>
            rw [List.map_cons, List.map_cons, List.cons.injEq] at equal
            exact
              .cons ⟨middle, head, equal.1⟩ (induction equal.2)
  · intro links
    induction links with
    | nil => exact ⟨[], .nil, rfl⟩
    | cons head _ induction =>
        rcases head with ⟨middle, relates, sees⟩
        rcases induction with ⟨middles, rest, equal⟩
        refine ⟨middle :: middles, .cons relates rest, ?_⟩
        rw [List.map_cons, List.map_cons, sees, equal]

end IocpServer.Library
