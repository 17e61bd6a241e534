import JitHost.Proofs.Host.StackEffects

/-!
# Setting the size of a frame

To set the size of a frame cuts the stack or fills it with nil in one step, at a length that is
counted from the whole stack or from where the frame begins. `Host.popMany` and `Host.pushNils` do
it one value at a time. All three are `Host.resize` at some length that is not below the frame, so
they agree (`Host.setTop_stepwise`), also where more values are dropped than the frame has.
-/

namespace JitHost

namespace Host

/-- A host after a number of pops. -/
def popMany (h : Host) : Nat → Host
  | 0 => h
  | n + 1 => (h.popMany n).pop.2

/-- A host after nil was pushed a number of times. -/
def pushNils (h : Host) : Nat → Host
  | 0 => h
  | n + 1 => (h.pushNils n).push .nil

/-! ## Cutting and filling -/

section Resize

variable (h : Host) {length shorter : Nat}

theorem toList_resize : (h.resize length).stack.toList =
    h.stack.toList.take length ++ List.replicate (length - h.stack.size) .nil := by
  simp only [resize, Array.toList_append, Array.take_eq_extract, Array.toList_extract,
    List.extract_eq_take_drop, Nat.sub_zero, List.drop_zero, Array.toList_replicate]

@[simp] theorem size_resize : (h.resize length).stack.size = length := by
  rw [← Array.length_toList, toList_resize, List.length_append, List.length_take,
    List.length_replicate, Array.length_toList]
  omega

theorem resize_self : h.resize h.stack.size = h := by
  have hstack : (h.resize h.stack.size).stack = h.stack := by
    apply Array.toList_inj.1
    rw [toList_resize, Nat.sub_self, List.replicate_zero, List.append_nil, ← Array.length_toList,
      List.take_length]
  exact congrArg (fun stack => { h with stack := stack }) hstack

/-- Only the last of two lengths counts if it is the lesser one. -/
theorem resize_resize (hle : shorter ≤ length) :
    (h.resize length).resize shorter = h.resize shorter := by
  have hstack : ((h.resize length).resize shorter).stack = (h.resize shorter).stack := by
    apply Array.toList_inj.1
    rw [toList_resize, toList_resize, toList_resize, size_resize, Nat.sub_eq_zero_of_le hle,
      List.replicate_zero, List.append_nil, List.take_append, List.take_take, Nat.min_eq_left hle,
      List.length_take, Array.length_toList, List.take_replicate]
    congr 2
    omega
  exact congrArg (fun stack => { h with stack := stack }) hstack

/-- To push nil onto a stack that was not cut fills one place more. -/
theorem push_resize (hle : h.stack.size ≤ length) :
    (h.resize length).push .nil = h.resize (length + 1) := by
  have hstack : (h.resize length).stack.push .nil = (h.resize (length + 1)).stack := by
    apply Array.toList_inj.1
    have hcount : length + 1 - h.stack.size = length - h.stack.size + 1 := by omega
    rw [Array.toList_push, toList_resize, toList_resize, List.take_of_length_le hle,
      List.take_of_length_le (Nat.le_succ_of_le hle), hcount, List.replicate_succ',
      List.append_assoc]
  exact congrArg (fun stack => { h with stack := stack }) hstack

/-- A pop cuts one value off, but nothing of what lies below the frame. -/
theorem pop_eq_resize (hframed : h.WellFramed) :
    h.pop.2 = h.resize (max (h.stack.size - 1) h.base) := by
  have hbase : h.base ≤ h.stack.size := hframed
  unfold pop
  by_cases hlt : h.base < h.stack.size
  · have hlength : max (h.stack.size - 1) h.base = h.stack.size - 1 := by omega
    have hstack : h.stack.pop = (h.resize (h.stack.size - 1)).stack := by
      apply Array.toList_inj.1
      have hnone : h.stack.size - 1 - h.stack.size = 0 := by omega
      rw [Array.toList_pop, toList_resize, hnone, List.replicate_zero, List.append_nil,
        List.dropLast_eq_take, Array.length_toList]
    rw [if_pos hlt, hlength]
    exact congrArg (fun stack => { h with stack := stack }) hstack
  · have hlength : max (h.stack.size - 1) h.base = h.stack.size := by omega
    rw [if_neg hlt, hlength, resize_self]

/-- The stack below the frame stays, whatever the new length. -/
theorem frameBecomes_resize (hle : h.base ≤ length) :
    h.FrameBecomes (h.frame.take (length - h.base) ++
      List.replicate (length - h.stack.size) .nil) (h.resize length) where
  stack_eq := by
    have hsplit : h.base + (length - h.base) = length := by omega
    rw [toList_resize, ← List.append_assoc, frame, ← List.take_add, hsplit]
  base_eq := rfl
  limit_eq := rfl

end Resize

/-! ## One value at a time -/

section Steps

variable {h : Host}

theorem popMany_eq_resize (hframed : h.WellFramed) (n : Nat) :
    h.popMany n = h.resize (max (h.stack.size - n) h.base) := by
  induction n with
  | zero =>
    rw [Nat.sub_zero, Nat.max_eq_left hframed, resize_self]
    rfl
  | succ n ih =>
    -- Once the frame is empty the length stays at its beginning.
    have hcut : (h.resize (max (h.stack.size - n) h.base)).WellFramed := by
      show h.base ≤ _
      rw [size_resize]
      exact Nat.le_max_right _ _
    have hlength : max (max (h.stack.size - n) h.base - 1) h.base =
        max (h.stack.size - (n + 1)) h.base := by omega
    rw [popMany, ih, pop_eq_resize _ hcut, size_resize]
    show (h.resize _).resize (max (max (h.stack.size - n) h.base - 1) h.base) = _
    rw [hlength, resize_resize]
    omega

theorem pushNils_eq_resize (h : Host) (n : Nat) : h.pushNils n = h.resize (h.stack.size + n) := by
  induction n with
  | zero => exact h.resize_self.symm
  | succ n ih =>
    rw [pushNils, ih, push_resize h (Nat.le_add_right _ _)]
    rfl

theorem setTop_negative (h : Host) (n : Nat) :
    h.setTop (-n - 1) = h.resize (max (h.stack.size - n) h.base) := by
  have hnegative : ¬ (0 : Int) ≤ -n - 1 := by omega
  have hcount : (-n - 1 : Int).natAbs - 1 = n := by omega
  rw [setTop, if_neg hnegative, hcount]

theorem setTop_natCast (h : Host) (k : Nat) : h.setTop k = h.resize (h.base + k) := by
  rw [setTop, if_pos (Int.natCast_nonneg k), Int.toNat_natCast]

variable (hframed : h.WellFramed)
include hframed

/-- To drop values keeps the first ones of the frame, none if it has no more than are dropped. -/
theorem frameBecomes_setTop_negative (n : Nat) :
    h.FrameBecomes (h.frame.take (h.top - n)) (h.setTop (-n - 1)) := by
  have hbase : h.base ≤ h.stack.size := hframed
  have hsize : h.top = h.stack.size - h.base := rfl
  have hkept : max (h.stack.size - n) h.base - h.base = h.top - n := by omega
  have hfilled : max (h.stack.size - n) h.base - h.stack.size = 0 := by omega
  have hframe := h.frameBecomes_resize (Nat.le_max_right (h.stack.size - n) h.base)
  rw [hkept, hfilled, List.replicate_zero, List.append_nil] at hframe
  rw [setTop_negative]
  exact hframe

theorem frameBecomes_setTop_natCast (k : Nat) :
    h.FrameBecomes (h.frame.take k ++ List.replicate (k - h.top) .nil) (h.setTop k) := by
  have hbase : h.base ≤ h.stack.size := hframed
  have hsize : h.top = h.stack.size - h.base := rfl
  have hfilled : h.base + k - h.stack.size = k - h.top := by omega
  have hframe := h.frameBecomes_resize (Nat.le_add_right h.base k)
  rw [Nat.add_sub_cancel_left, hfilled] at hframe
  rw [setTop_natCast]
  exact hframe

theorem setTop_eq_popMany {k : Nat} (hle : k ≤ h.top) :
    h.setTop k = h.popMany (h.top - k) := by
  have hbase : h.base ≤ h.stack.size := hframed
  have hsize : h.top = h.stack.size - h.base := rfl
  have hcut : max (h.stack.size - (h.top - k)) h.base = h.base + k := by omega
  rw [setTop_natCast, popMany_eq_resize hframed, hcut]

theorem setTop_eq_pushNils {k : Nat} (hle : h.top ≤ k) :
    h.setTop k = h.pushNils (k - h.top) := by
  have hbase : h.base ≤ h.stack.size := hframed
  have hsize : h.top = h.stack.size - h.base := rfl
  have hfill : h.stack.size + (k - h.top) = h.base + k := by omega
  rw [setTop_natCast, pushNils_eq_resize, hfill]

end Steps

/-! ## The size that is set -/

section Size

variable {h after : Host} {values : List Value}

theorem length_frame (h : Host) : h.frame.length = h.top := by
  rw [frame, List.length_drop, Array.length_toList]
  rfl

theorem FrameBecomes.top_eq (hbecomes : h.FrameBecomes values after) (hframed : h.WellFramed) :
    after.top = values.length := by
  rw [← length_frame, hbecomes.frame_eq hframed]

end Size

/-- How the size of a frame is set: as if values were popped or pushed one by one. -/
structure SetsTopStepwise (h : Host) : Prop where
  /-- A negative index pops as many values as it says, in vain once there are none. -/
  negative_eq : ∀ n : Nat, h.setTop (-n - 1) = h.popMany n
  /-- Any other one pops the values beyond the new size, -/
  cut_eq : ∀ k : Nat, k ≤ h.top → h.setTop k = h.popMany (h.top - k)
  /-- or pushes nil until that size is reached. -/
  fill_eq : ∀ k : Nat, h.top ≤ k → h.setTop k = h.pushNils (k - h.top)
  /-- What is kept are the first values of the frame, and below it nothing changes. -/
  negative_frame : ∀ n : Nat, h.FrameBecomes (h.frame.take (h.top - n)) (h.setTop (-n - 1))
  set_frame : ∀ k : Nat,
    h.FrameBecomes (h.frame.take k ++ List.replicate (k - h.top) .nil) (h.setTop k)
  negative_top : ∀ n : Nat, (h.setTop (-n - 1)).top = h.top - n
  set_top : ∀ k : Nat, (h.setTop k).top = k

/-- Whatever lies below the frame and whatever the index, the size is set as by single steps. -/
theorem setTop_stepwise {h : Host} (hframed : h.WellFramed) : h.SetsTopStepwise where
  negative_eq := by
    intro n
    rw [setTop_negative, popMany_eq_resize hframed]
  cut_eq := fun k hle => setTop_eq_popMany hframed hle
  fill_eq := fun k hle => setTop_eq_pushNils hframed hle
  negative_frame := frameBecomes_setTop_negative hframed
  set_frame := frameBecomes_setTop_natCast hframed
  negative_top := by
    intro n
    rw [(frameBecomes_setTop_negative hframed n).top_eq hframed, List.length_take, length_frame]
    exact Nat.min_eq_left (Nat.sub_le _ _)
  set_top := by
    intro k
    rw [(frameBecomes_setTop_natCast hframed k).top_eq hframed, List.length_append,
      List.length_take, List.length_replicate, length_frame]
    omega

/-- A frame of two values above three others: the lowest index drops these two only. -/
theorem setTop_stepwise_lowest :
    let h : Host := ⟨#[.nil, .nil, .boolean true, .boolean false, .nil], 3, 8, none, .empty⟩
    h.WellFramed ∧ h.top = 2 ∧
      (h.setTop (-2147483648)).stack.toList = [.nil, .nil, .boolean true] ∧
      h.SetsTopStepwise := by
  intro h
  have hframed : h.WellFramed := Nat.le_add_right 3 2
  have hsteps := setTop_stepwise hframed
  have hindex : (-2147483648 : Int) = -(2147483647 : Nat) - 1 := rfl
  have hnone : h.top - 2147483647 = 0 := Nat.sub_eq_zero_of_le (by decide)
  refine ⟨hframed, rfl, ?_, hsteps⟩
  rw [hindex, (hsteps.negative_frame 2147483647).stack_eq, hnone]
  rfl

end Host

end JitHost
