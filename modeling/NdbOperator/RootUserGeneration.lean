import NdbOperator.MysqldController
import NdbOperator.ConfigReading
import Mathlib.Tactic.Ring

set_option autoImplicit false

/-!
# The root user generation annotation

`reconcileRootUser` writes the generation it applied to the root user into the StatefulSet's
`root-user-generation` annotation with `fmt.Sprintf("%d", ...)`, and compares the annotation,
read back with `strconv.ParseInt`, against the config summary's generation on every tick. The two
conversions are inverse on every generation, so one tick whose calls succeed settles the root
user: every later tick for that generation, whatever the spec's root host and whatever the calls
would answer, continues without touching the MySQL Servers or the StatefulSet.
-/

namespace NdbOperator

open SyncResult

namespace MySQLDStatefulSetController

/-! ## Reading back a printed generation -/

theorem foldl_decimal (ds : List Char) (acc : Nat) :
    ds.foldl (fun n d => 10 * n + (d.toNat - '0'.toNat)) acc =
      acc * 10 ^ ds.length + ds.foldl (fun n d => 10 * n + (d.toNat - '0'.toNat)) 0 := by
  induction ds generalizing acc with
  | nil => simp
  | cons d ds ih =>
    rw [List.foldl_cons, List.foldl_cons, ih, ih (10 * 0 + _), List.length_cons, pow_succ]
    ring

theorem digitChar_value {d : Nat} (h : d < 10) : (Nat.digitChar d).toNat - '0'.toNat = d := by
  interval_cases d <;> rfl

theorem foldl_toDigitsCore (fuel n : Nat) (ds : List Char) (h : n < fuel) :
    (Nat.toDigitsCore 10 fuel n ds).foldl (fun n d => 10 * n + (d.toNat - '0'.toNat)) 0 =
      n * 10 ^ ds.length + ds.foldl (fun n d => 10 * n + (d.toNat - '0'.toNat)) 0 := by
  induction fuel generalizing n ds with
  | zero => omega
  | succ fuel ih =>
    have hd := digitChar_value (Nat.mod_lt n (by omega : 10 > 0))
    simp only [Nat.toDigitsCore]
    split
    · rw [List.foldl_cons, foldl_decimal, hd, Nat.mod_eq_of_lt (by omega)]
      ring
    · rw [ih _ _ (by omega), List.foldl_cons, foldl_decimal, hd, List.length_cons, pow_succ]
      conv_rhs => rw [← Nat.div_add_mod n 10]
      ring

theorem toDigitsCore_ne_nil (fuel n : Nat) (ds : List Char) (h : 0 < fuel ∨ ds ≠ []) :
    Nat.toDigitsCore 10 fuel n ds ≠ [] := by
  induction fuel generalizing n ds with
  | zero => exact h.resolve_left (by omega)
  | succ fuel ih =>
    simp only [Nat.toDigitsCore]
    split
    · exact List.cons_ne_nil _ _
    · exact ih _ _ (.inr (List.cons_ne_nil _ _))

theorem parseDecimal_toDigits (n : Nat) : parseDecimal (Nat.toDigits 10 n) = some n := by
  have hdig := digit_of_mem_toDigitsCore (n + 1) n [] (by simp)
  rw [parseDecimal, if_pos ⟨toDigitsCore_ne_nil _ _ _ (.inl (by omega)), List.all_eq_true.mpr hdig⟩]
  simpa using foldl_toDigitsCore (n + 1) n [] (by omega)

theorem parseGeneration_toString (g : Int) : parseGeneration (toString g) = g := by
  cases g with
  | ofNat m =>
    -- a printed natural number starts with a digit, not with a sign
    have hhead : ∀ c ds, Nat.toDigitsCore 10 (m + 1) m [] = c :: ds → c.isDigit := fun c ds h =>
      digit_of_mem_toDigitsCore (m + 1) m [] (by simp) c (h ▸ List.mem_cons_self _ _)
    show parseGeneration ⟨Nat.toDigits 10 m⟩ = _
    unfold parseGeneration
    split
    · exact absurd (hhead _ _ ‹_›) (by decide)
    · exact absurd (hhead _ _ ‹_›) (by decide)
    · simp [parseDecimal_toDigits]
  | negSucc m =>
    show parseGeneration ⟨'-' :: Nat.toDigits 10 (m + 1)⟩ = _
    dsimp only [parseGeneration, String.toList]
    split
    · rename_i ds h
      cases h
      rw [parseDecimal_toDigits]
      rfl
    · rename_i ds h
      cases h
    · rename_i ds h _
      exact absurd rfl (h _)

end MySQLDStatefulSetController

open MySQLDStatefulSetController

/-! ## Root user ticks of one generation -/

/-- The StatefulSet, if there is one, records `g` as the generation applied to the root user. -/
def RootUserAt (g : Int) (w : MysqldWorld) : Prop :=
  ∀ s, w.statefulSet = some s → (s.rootUserGeneration.map parseGeneration).getD 0 = g

def RootUserSucceeds (ans : MysqldAnswers) : Prop :=
  (∃ password, ans.extractPassword = .ok password) ∧ ans.createRootUser = .ok () ∧
    ans.updateRootUser = .ok () ∧ ans.patchStatefulSet = .ok ()

/-- A root user tick of the config summary's generation `g`, for any spec and any answers. -/
inductive RootUserTick (g : Int) : MysqldWorld → MysqldWorld → Prop
  | tick (newRootHost : String) (ans : MysqldAnswers) (w : MysqldWorld) :
      RootUserTick g w (reconcileRootUser g newRootHost ans w).2

section RootUserTicks

variable {g : Int} {newRootHost : String} {ans : MysqldAnswers} {w : MysqldWorld}

theorem reconcileRootUser_of_rootUserAt (hw : RootUserAt g w) :
    reconcileRootUser g newRootHost ans w = (continueProcessing, w) := by
  unfold reconcileRootUser
  rcases hs : w.statefulSet with _ | s
  · rfl
  · exact if_pos (hw s hs)

theorem applyRootUser_of_succeeds (hs : RootUserSucceeds ans) (existing : Option String) :
    ∃ w', applyRootUser ans newRootHost existing w = .ok w' := by
  obtain ⟨⟨password, he⟩, hc, hu, -⟩ := hs
  rcases existing with _ | e
  · simp only [applyRootUser, he, hc, bind, Except.bind, Except.map, Except.ok.injEq, exists_eq']
  · by_cases hne : newRootHost ≠ e
    · simp only [applyRootUser, if_pos hne, hu, Except.map, Except.ok.injEq, exists_eq']
    · exact ⟨w, if_neg hne⟩

theorem reconcileRootUser_rootUserAt (hs : RootUserSucceeds ans) :
    RootUserAt g (reconcileRootUser g newRootHost ans w).2 := by
  unfold reconcileRootUser
  rcases hsf : w.statefulSet with _ | s
  · intro s h
    rw [hsf] at h
    cases h
  · dsimp only
    split_ifs with hg
    · intro s' h
      rw [hsf, Option.some.injEq] at h
      exact h ▸ hg
    · obtain ⟨w', hw'⟩ := @applyRootUser_of_succeeds newRootHost ans w hs s.rootHost
      rw [hw']
      dsimp only
      rw [hs.2.2.2]
      rintro s' ⟨⟩
      simp [parseGeneration_toString]

/-- After one successful root user tick, later ticks of its generation change nothing. -/
theorem rootUser_settles (hs : RootUserSucceeds ans) {w' : MysqldWorld}
    (h : Relation.ReflTransGen (RootUserTick g) (reconcileRootUser g newRootHost ans w).2 w') :
    w' = (reconcileRootUser g newRootHost ans w).2 ∧
      ∀ host ans', reconcileRootUser g host ans' w' = (continueProcessing, w') := by
  have hat := @reconcileRootUser_rootUserAt g newRootHost ans w hs
  induction h with
  | refl => exact ⟨rfl, fun _ _ => reconcileRootUser_of_rootUserAt hat⟩
  | tail _ hstep ih =>
    obtain ⟨rfl, hcont⟩ := ih
    cases hstep with
    | tick host ans' _ =>
      rw [hcont host ans']
      exact ⟨rfl, hcont⟩

end RootUserTicks

theorem rootUser_settles_sample :
    (reconcileRootUser 2 "%" failedPatchAnswers
        (reconcileRootUser 2 "localhost" reliableAnswers twoServersWorld).2).2 =
      (reconcileRootUser 2 "localhost" reliableAnswers twoServersWorld).2 :=
  (rootUser_settles ⟨⟨"secret", rfl⟩, rfl, rfl, rfl⟩
    (.single (.tick "%" failedPatchAnswers _))).1

end NdbOperator
