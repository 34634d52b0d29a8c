import SensorGateway.Dplist.Runs
import SensorGateway.Library.BubbleSort

set_option autoImplicit false

/-! # `dpl_insert_sorted`

The operator sorts the list by exchanging the elements of neighbouring nodes, and then inserts before
the first element that compares as greater. The comparison function is called once for each pair of
neighbours in a pass and once for each element in the search; `compare c` is what it does in its
`c`-th call, so that nothing needs to be assumed about it (`insert_sorted_safe`).

On the sequence of the elements the passes are those of `bubbleSort` (`BeforePass.loop_eq`), whose
boundary is the node that `ldummy` points to, and the whole operator is `sortInsert`
(`insertSorted_elements`). -/

namespace SensorGateway

variable {E : Type}

/-! ## The code -/

/-- The variables of a pass, and how often the comparison function was called. -/
structure PassState (E : Type) where
  heap : Heap (DplNode E)
  dummy : Ptr
  swapped : Bool
  calls : ℕ

/-- The body of the inner loop: exchange the elements of a node and the next one if they compare as
    greater. Its only stop is a node whose successor is `ldummy`. -/
def passBody (compare : ℕ → E → E → ℤ) (ldummy : Ptr) (s : PassState E) :
    Option (LoopStep (PassState E) (PassState E)) := do
  let node ← s.heap.load s.dummy
  if node.next = ldummy then some (.exit s)
  else do
    let next ← s.heap.load node.next
    if compare s.calls node.element next.element = 1 then do
      let heap ← s.heap.modify s.dummy fun node => { node with element := next.element }
      let heap ← heap.modify node.next fun next => { next with element := node.element }
      return .next ⟨heap, node.next, true, s.calls + 1⟩
    else
      return .next { s with dummy := node.next, calls := s.calls + 1 }

/-- The variables of the sort loop. -/
structure SortLoop (E : Type) where
  heap : Heap (DplNode E)
  ldummy : Ptr
  calls : ℕ

/-- The body of the sort loop: a pass, whose last node is the next boundary; go on if it exchanged
    anything. -/
def sortBody (compare : ℕ → E → E → ℤ) (head : Ptr) (s : SortLoop E) :
    Option (LoopStep (SortLoop E) (SortLoop E)) := do
  let pass ← loop (passBody compare s.ldummy) s.heap.walkFuel ⟨s.heap, head, false, s.calls⟩
  let s := ⟨pass.heap, pass.dummy, pass.calls⟩
  if pass.swapped = true then return .next s else return .exit s

/-- The index that the element is inserted at: that of the first element that compares as greater, the
    size of the list if there is none. -/
def Dplist.sortedIndex (compare : ℕ → E → E → ℤ) (calls : ℕ) (list : Dplist E) (element : E) :
    Option ℤ :=
  list.scan
    (fun _ x index => if compare (calls + index.toNat) x element = 1 then some index else none)
    (fun _ x index => if compare (calls + index.toNat) x element = 1 then index else index + 1) 0

/-- `dpl_insert_sorted`, with a comparison function that may do something else in each call. -/
def dplInsertSortedWith (compare : ℕ → E → E → ℤ) (list : Dplist E) (element : E)
    (insertCopy : Bool) (block : Ptr) : Option (Dplist E) :=
  if list.head = none then dplInsertAtIndex list element 0 insertCopy block
  else do
    let s ← loop (sortBody compare list.head) list.heap.walkFuel ⟨list.heap, none, 0⟩
    let list := { list with heap := s.heap }
    let index ← list.sortedIndex compare s.calls element
    dplInsertAtIndex list element index insertCopy block

/-- `dpl_insert_sorted`. -/
def dplInsertSorted (list : Dplist E) (element : E) (insertCopy : Bool) (block : Ptr) :
    Option (Dplist E) :=
  dplInsertSortedWith (fun _ => list.elementCompare) list element insertCopy block

/-! ## A pass -/

/-- Whether a call of the comparison function exchanges two elements. -/
def swaps (compare : ℕ → E → E → ℤ) (c : ℕ) (x y : E) : Bool := decide (compare c x y = 1)

section Pass

variable (compare : ℕ → E → E → ℤ) {h : Heap (DplNode E)} {b l q : Ptr} {a : Addr} {x : E}
  {rest : List (Addr × E)} {list : Dplist E}

/-- An iteration of the inner loop compares the elements of two nodes, and exchanges them or not. It
    keeps the links of both, and touches no other node. -/
theorem passBody_next {a' : Addr} {y : E} {prev next : Ptr} (hne : some a' ≠ q) (haa' : a ≠ a')
    (hnode : h.lookup a = some ⟨prev, some a', x⟩) (hnode' : h.lookup a' = some ⟨some a, next, y⟩)
    (swapped : Bool) (c : ℕ) :
    ∃ h', passBody compare q ⟨h, some a, swapped, c⟩
        = some (.next ⟨h', some a', swapped || swaps compare c x y, c + 1⟩) ∧
      h'.lookup a = some ⟨prev, some a', if swaps compare c x y = true then y else x⟩ ∧
      h'.lookup a' = some ⟨some a, next, if swaps compare c x y = true then x else y⟩ ∧
      ∀ a'', a'' ≠ a → a'' ≠ a' → h'.lookup a'' = h.lookup a'' := by
  by_cases hswap : compare c x y = 1
  · have hswaps : swaps compare c x y = true := decide_eq_true hswap
    have hnode₁ : (h.insert a ⟨prev, some a', y⟩).lookup a' = some ⟨some a, next, y⟩ := by
      rw [Finmap.lookup_insert_of_ne _ haa'.symm, hnode']
    rw [hswaps, Bool.or_true, if_pos rfl, if_pos rfl]
    refine ⟨(h.insert a ⟨prev, some a', y⟩).insert a' ⟨some a, next, x⟩, ?_, ?_, ?_, ?_⟩
    · simp [passBody, hnode, hne, hnode', hswap, Heap.modify_some hnode, Heap.modify_some hnode₁]
    · rw [Finmap.lookup_insert_of_ne _ haa', Finmap.lookup_insert]
    · exact Finmap.lookup_insert _
    · intro a'' hne₁ hne₂
      rw [Finmap.lookup_insert_of_ne _ hne₂, Finmap.lookup_insert_of_ne _ hne₁]
  · have hswaps : swaps compare c x y = false := decide_eq_false hswap
    rw [hswaps, Bool.or_false, if_neg Bool.false_ne_true, if_neg Bool.false_ne_true]
    refine ⟨h, ?_, hnode, hnode', fun _ _ _ => rfl⟩
    simp [passBody, hnode, hne, hnode', hswap]

/-- **The inner loop is a pass over the nodes in front of the boundary `q`.** It stops at the last of
    them, keeps the links, and touches no other node. -/
theorem loop_passBody (hs : DSeg dplLinks h b (some a) ((a, x) :: rest) l q)
    (hnodup : (a :: rest.map Prod.fst).Nodup) (hq : ∀ a' ∈ rest.map Prod.fst, q ≠ some a')
    {fuel : ℕ} (hfuel : rest.length < fuel) (swapped : Bool) (c : ℕ) :
    ∃ h' cells, loop (passBody compare q) fuel ⟨h, some a, swapped, c⟩
        = some ⟨h', l, swapped || (bubblePass (swaps compare) c x (rest.map Prod.snd)).2,
            c + rest.length⟩ ∧
      DSeg dplLinks h' b (some a) cells l q ∧ cells.map Prod.fst = a :: rest.map Prod.fst ∧
      cells.map Prod.snd = (bubblePass (swaps compare) c x (rest.map Prod.snd)).1 ∧
      ∀ a' ∉ a :: rest.map Prod.fst, h'.lookup a' = h.lookup a' := by
  induction rest generalizing h b a x fuel swapped c with
  | nil =>
      obtain ⟨-, node, hnode, hprev, hval, rfl, hnext⟩ := hs
      obtain ⟨fuel, rfl⟩ : ∃ k, fuel = k + 1 := ⟨fuel - 1, by omega⟩
      have hbody : passBody compare q ⟨h, some a, swapped, c⟩
          = some (.exit ⟨h, some a, swapped, c⟩) := by
        have hnext : node.next = q := hnext
        simp [passBody, hnode, hnext]
      refine ⟨h, [(a, x)], ?_, ⟨rfl, node, hnode, hprev, hval, rfl, hnext⟩, rfl, rfl,
        fun _ _ => rfl⟩
      rw [loop_exit hbody]
      simp [bubblePass]
  | cons cell rest ih =>
      obtain ⟨a', y⟩ := cell
      obtain ⟨-, ⟨prev, next, x⟩, hnode, hprev, hval, hnext, ⟨prev', next', y⟩, hnode', hprev', hval',
        hrest⟩ := hs
      obtain rfl : prev = b := hprev
      obtain rfl : next = some a' := hnext
      obtain rfl : x = _ := hval
      obtain rfl : prev' = some a := hprev'
      obtain rfl : y = _ := hval'
      obtain ⟨fuel, rfl⟩ : ∃ k, fuel = k + 1 := ⟨fuel - 1, by omega⟩
      have hlen : rest.length < fuel := by simpa using hfuel
      obtain ⟨ha, hnodup'⟩ := List.nodup_cons.1 hnodup
      rw [List.map_cons] at ha hnodup'
      obtain ⟨haa', hafresh⟩ : a ≠ a' ∧ a ∉ rest.map Prod.fst := by simpa using ha
      have ha'fresh : a' ∉ rest.map Prod.fst := (List.nodup_cons.1 hnodup').1
      have hne : some a' ≠ q := (hq a' (List.mem_cons_self ..)).symm
      have hq' : ∀ a'' ∈ rest.map Prod.fst, q ≠ some a'' := fun a'' hmem =>
        hq a'' (List.mem_cons_of_mem _ hmem)
      obtain ⟨h₁, hbody, hfirst, hsecond, hothers⟩ :=
        passBody_next compare hne haa' hnode hnode' swapped c
      -- the pass goes on from the second node, with what it holds now
      obtain ⟨x₁, hx₁⟩ : ∃ x₁, x₁ = if swaps compare c x y = true then y else x := ⟨_, rfl⟩
      obtain ⟨y₁, hy₁⟩ : ∃ y₁, y₁ = if swaps compare c x y = true then x else y := ⟨_, rfl⟩
      rw [← hx₁] at hfirst
      rw [← hy₁] at hsecond
      have hs₁ : DSeg dplLinks h₁ (some a) (some a') ((a', y₁) :: rest) l q := by
        refine ⟨rfl, _, hsecond, rfl, rfl, hrest.frame fun a'' hmem => hothers a'' ?_ ?_⟩
        · exact fun he => hafresh (he ▸ hmem)
        · exact fun he => ha'fresh (he ▸ hmem)
      obtain ⟨h', cells, hloop, hcells, haddrs, hvals, hframe⟩ :=
        ih hs₁ hnodup' hq' hlen (swapped || swaps compare c x y) (c + 1)
      have hpass : bubblePass (swaps compare) c x (((a', y) :: rest).map Prod.snd)
          = (x₁ :: (bubblePass (swaps compare) (c + 1) y₁ (rest.map Prod.snd)).1,
            swaps compare c x y ||
              (bubblePass (swaps compare) (c + 1) y₁ (rest.map Prod.snd)).2) := by
        rw [List.map_cons, bubblePass, hx₁, hy₁]
        cases swaps compare c x y <;> rfl
      rw [hpass]
      refine ⟨h', (a, x₁) :: cells, ?_, ⟨rfl, _, (hframe a ha).trans hfirst, rfl, rfl, hcells⟩, ?_,
        ?_, ?_⟩
      · rw [loop_next hbody, hloop, Bool.or_assoc, List.length_cons, Nat.add_right_comm,
          Nat.add_assoc]
      · rw [List.map_cons, haddrs, List.map_cons]
      · rw [List.map_cons, hvals]
      · intro a'' hmem
        obtain ⟨hne₁, hmem⟩ := not_or.1 fun h => hmem (List.mem_cons.2 h)
        have hne₂ : a'' ≠ a' := fun he => hmem (he ▸ List.mem_cons_self ..)
        rw [hframe a'' hmem, hothers a'' hne₁ hne₂]

/-- A pass whose boundary is behind `front`, in a list that goes on with `back`. -/
theorem Dplist.WellFormed.pass {front back : List (Addr × E)}
    (h : list.WellFormed ((a, x) :: (front ++ back))) (c : ℕ) :
    ∃ heap e node cells, loop (passBody compare (back.map Prod.fst).head?) list.heap.walkFuel
        ⟨list.heap, list.head, false, c⟩
          = some ⟨heap, some e, (bubblePass (swaps compare) c x (front.map Prod.snd)).2,
              c + front.length⟩ ∧
      heap.lookup e = some node ∧ node.next = (back.map Prod.fst).head? ∧
      (a :: front.map Prod.fst).getLast? = some e ∧
      ({ list with heap } : Dplist E).WellFormed (cells ++ back) ∧
      cells.map Prod.fst = a :: front.map Prod.fst ∧
      cells.map Prod.snd = (bubblePass (swaps compare) c x (front.map Prod.snd)).1 := by
  obtain ⟨last, hseg⟩ := h.linked
  have hfuel := hseg.length_lt_walkFuel
  have hnodup := h.nodup
  rw [← List.cons_append] at hseg hnodup
  obtain ⟨l, q, hfront, hback⟩ := dseg_append.1 hseg
  rw [List.map_append, List.nodup_append] at hnodup
  obtain ⟨hfrontNodup, -, hdisjoint⟩ := hnodup
  have hq : q = (back.map Prod.fst).head? := hback.start_eq
  have hqfront : ∀ a' ∈ front.map Prod.fst, q ≠ some a' := by
    rintro a' hmem rfl
    exact hdisjoint a' (List.mem_cons_of_mem _ hmem) a' (List.mem_of_mem_head? hq.symm) rfl
  have hhead : list.head = some a := hfront.1
  have hlen : front.length < list.heap.walkFuel := by
    simp only [List.length_cons, List.length_append] at hfuel
    omega
  obtain ⟨heap, cells, hloop, hcells, haddrs, hvals, hframe⟩ :=
    loop_passBody compare (hhead ▸ hfront) hfrontNodup hqfront hlen false c
  have hne : cells ≠ [] := by
    rintro rfl
    simp at haddrs
  obtain ⟨init, ⟨e, z⟩, rfl⟩ := (List.eq_nil_or_concat cells).resolve_left hne
  rw [List.concat_eq_append] at hcells haddrs hvals
  have hlinked : DSeg dplLinks heap none list.head (init ++ [(e, z)]) l q := by
    rw [hhead]
    exact hcells
  obtain ⟨rfl, -, node, -, hnode, -, -, hnext⟩ := dseg_concat.1 hcells
  -- the rest of the list is not written
  have hbackframe : DSeg dplLinks heap (some e) q back last none := by
    refine hback.frame fun a' hmem => hframe a' ?_
    intro hmem'
    exact hdisjoint a' hmem' a' hmem rfl
  rw [← hq]
  refine ⟨heap, e, node, init ++ [(e, z)], ?_, hnode, hnext, ?_,
    ⟨⟨last, dseg_append.2 ⟨_, _, hlinked, hbackframe⟩⟩, ?_⟩, haddrs, hvals⟩
  · rw [hhead, hloop, Bool.false_or]
  · have hlast : ((init ++ [(e, z)]).map Prod.fst).getLast? = some e := by simp
    rwa [haddrs] at hlast
  · intro a' ha'
    rw [List.map_append, haddrs]
    by_cases hmem : a' ∈ a :: front.map Prod.fst
    · exact List.mem_append_left _ hmem
    · have hold : a' ∈ list.heap := by
        obtain ⟨node', hnode'⟩ := Finmap.mem_iff.1 ha'
        exact Finmap.mem_of_lookup_eq_some ((hframe a' hmem).symm.trans hnode')
      simpa using h.owned a' hold

/-- An iteration that does not fault has a node, and one behind it unless it is the last one. -/
theorem passBody_safe {compare : ℕ → E → E → ℤ} {ldummy : Ptr} {s : PassState E}
    (h : passBody compare ldummy s ≠ none) :
    ∃ node, s.heap.load s.dummy = some node ∧ (node.next = ldummy ∨ node.next ≠ none) := by
  cases hnode : s.heap.load s.dummy with
  | none => exact absurd (by simp [passBody, hnode]) h
  | some node =>
      refine ⟨node, rfl, ?_⟩
      by_cases hlast : node.next = ldummy
      · exact Or.inl hlast
      · refine Or.inr fun hnull => h ?_
        rw [hnull] at hlast
        simp [passBody, hnode, hnull, hlast]

end Pass

/-! ## The sort loop -/

section SortLoop

variable (compare : ℕ → E → E → ℤ) {list : Dplist E} {addrs : List Addr} {x : E} {xs vals : List E}
  {m : ℕ} {s : SortLoop E}

/-- The nodes `addrs` of the list hold the elements `vals` on a heap. -/
def Dplist.Holds (list : Dplist E) (addrs : List Addr) (vals : List E) (heap : Heap (DplNode E)) :
    Prop :=
  ∃ cells, ({ list with heap } : Dplist E).WellFormed cells ∧ cells.map Prod.fst = addrs ∧
    cells.map Prod.snd = vals

/-- The sort loop before a pass of `m` comparisons. -/
structure BeforePass (list : Dplist E) (addrs : List Addr) (vals : List E) (m : ℕ)
    (s : SortLoop E) : Prop where
  holds : list.Holds addrs vals s.heap
  boundary : s.ldummy = addrs[m + 1]?
  lt : m < addrs.length

/-- The boundary is never the head. -/
theorem BeforePass.ldummy_ne_head (h : BeforePass list addrs vals m s) : s.ldummy ≠ list.head := by
  obtain ⟨⟨cells, hwf, rfl, rfl⟩, hboundary, hlt⟩ := h
  have hhead : list.head = (cells.map Prod.fst)[0]? := by
    rw [← List.head?_eq_getElem?, List.head?_map]
    exact hwf.head_eq
  rw [hboundary, hhead]
  intro heq
  have hzero : 0 = m + 1 := (List.getElem?_inj (by omega) hwf.nodup).1 heq.symm
  omega

/-- **A pass of the sort loop** is a pass over the first `m + 1` elements. The inner loop ends at the
    node in front of the boundary, the next boundary. -/
theorem BeforePass.pass (h : BeforePass list addrs (x :: xs) m s) :
    ∃ pass node, loop (passBody compare s.ldummy) s.heap.walkFuel
        ⟨s.heap, list.head, false, s.calls⟩ = some pass ∧
      pass.heap.load pass.dummy = some node ∧ node.next = s.ldummy ∧ pass.dummy = addrs[m]? ∧
      pass.swapped = (bubblePass (swaps compare) s.calls x (xs.take m)).2 ∧
      pass.calls = s.calls + m ∧
      list.Holds addrs ((bubblePass (swaps compare) s.calls x (xs.take m)).1 ++ xs.drop m)
        pass.heap := by
  obtain ⟨⟨cells, hwf, rfl, hvals⟩, hboundary, hlt⟩ := h
  obtain ⟨⟨a, x'⟩, tail, rfl⟩ : ∃ cell tail, cells = cell :: tail :=
    List.exists_cons_of_ne_nil (by rintro rfl; simp at hvals)
  obtain ⟨rfl, rfl⟩ : x' = x ∧ tail.map Prod.snd = xs := by simpa using hvals
  -- what is in front of the boundary, and what is behind it
  obtain ⟨front, back, rfl, rfl⟩ : ∃ front back, tail = front ++ back ∧ front.length = m :=
    ⟨tail.take m, tail.drop m, by simp, by simp at hlt ⊢; omega⟩
  obtain ⟨heap, e, node, cells, hloop, hnode, hnext, hlast, hwf', haddrs, hvals'⟩ :=
    hwf.pass compare s.calls
  have hq : s.ldummy = (back.map Prod.fst).head? := by
    rw [hboundary, List.map_cons, List.getElem?_cons_succ, List.map_append,
      List.getElem?_append_right (by rw [List.length_map]), List.length_map, Nat.sub_self,
      List.head?_eq_getElem?]
  have hm : some e = (((a, x') :: (front ++ back)).map Prod.fst)[front.length]? := by
    rw [← hlast, List.getLast?_eq_getElem?, ← List.cons_append, List.map_append, List.map_cons,
      List.getElem?_append_left (by simp)]
    simp
  have htake : ((front ++ back).map Prod.snd).take front.length = front.map Prod.snd := by
    rw [List.map_append, List.take_left' (List.length_map _)]
  have hdrop : ((front ++ back).map Prod.snd).drop front.length = back.map Prod.snd := by
    rw [List.map_append, List.drop_left' (List.length_map _)]
  rw [htake, hdrop, hq]
  refine ⟨_, node, hloop, hnode, hnext, hm, rfl, rfl, cells ++ back, hwf', ?_, ?_⟩
  · rw [List.map_append, haddrs, List.map_cons, List.map_append]
    rfl
  · rw [List.map_append, hvals']

/-- The body of the sort loop goes on before a pass of one comparison less, or the pass has
    exchanged nothing and it stops. -/
theorem BeforePass.step (h : BeforePass list addrs (x :: xs) m s) :
    ∃ s', sortBody compare list.head s
        = some (if (bubblePass (swaps compare) s.calls x (xs.take m)).2 = true then .next s'
            else .exit s') ∧
      s'.ldummy = addrs[m]? ∧ s'.calls = s.calls + m ∧
      list.Holds addrs ((bubblePass (swaps compare) s.calls x (xs.take m)).1 ++ xs.drop m)
        s'.heap := by
  obtain ⟨pass, node, hloop, -, -, hdummy, hswapped, hcalls, hholds⟩ := h.pass compare
  refine ⟨⟨pass.heap, pass.dummy, pass.calls⟩, ?_, hdummy, hcalls, hholds⟩
  unfold sortBody
  rw [hloop]
  simp only [Option.bind_eq_bind, Option.bind_some, hswapped]
  split <;> rfl

theorem BeforePass.length_eq (h : BeforePass list addrs vals m s) : addrs.length = vals.length := by
  obtain ⟨⟨cells, -, rfl, rfl⟩, -⟩ := h
  simp

theorem BeforePass.exists_cons (h : BeforePass list addrs vals m s) : ∃ x xs, vals = x :: xs := by
  refine List.exists_cons_of_ne_nil ?_
  rintro rfl
  exact absurd h.lt (by simp [h.length_eq])

/-- The body goes on only if the pass compared anything. -/
theorem BeforePass.next (h : BeforePass list addrs vals m s) {s' : SortLoop E}
    (hnext : sortBody compare list.head s = some (.next s')) :
    ∃ m' vals', m = m' + 1 ∧ BeforePass list addrs vals' m' s' := by
  obtain ⟨x, xs, rfl⟩ := h.exists_cons
  obtain ⟨s'', hbody, hboundary, -, hholds⟩ := h.step compare
  rw [hbody] at hnext
  split at hnext
  · next hswapped =>
      obtain rfl : s'' = s' := by simpa using hnext
      cases m with
      | zero => exact absurd hswapped (by simp [bubblePass])
      | succ m => exact ⟨m, _, rfl, hholds, hboundary, by have := h.lt; omega⟩
  · simp at hnext

/-- **The sort loop is `bubbleSort`**, and ends after at most `m + 1` passes. -/
theorem BeforePass.loop_eq (h : BeforePass list addrs vals m s) {fuel : ℕ} (hfuel : m < fuel) :
    ∃ s', loop (sortBody compare list.head) fuel s = some s' ∧
      list.Holds addrs (bubbleSort (swaps compare) m s.calls vals).1 s'.heap ∧
      s'.calls = (bubbleSort (swaps compare) m s.calls vals).2 := by
  induction m generalizing s vals fuel with
  | zero =>
      obtain ⟨fuel, rfl⟩ : ∃ k, fuel = k + 1 := ⟨fuel - 1, by omega⟩
      obtain ⟨x, xs, rfl⟩ := h.exists_cons
      obtain ⟨s', hbody, -, hcalls, hholds⟩ := h.step compare
      exact ⟨s', loop_exit hbody fuel, hholds, hcalls⟩
  | succ m ih =>
      obtain ⟨fuel, rfl⟩ : ∃ k, fuel = k + 1 := ⟨fuel - 1, by omega⟩
      obtain ⟨x, xs, rfl⟩ := h.exists_cons
      obtain ⟨s', hbody, hboundary, hcalls, hholds⟩ := h.step compare
      rw [bubbleSort]
      split at hbody
      · next hswapped =>
          have hlt : m < addrs.length := by have := h.lt; omega
          obtain ⟨s'', hloop, hholds', hcalls'⟩ :=
            ih ⟨hholds, hboundary, hlt⟩ (by omega : m < fuel)
          rw [loop_next hbody, if_pos hswapped, ← hcalls]
          exact ⟨s'', hloop, hholds', hcalls'⟩
      · next hswapped =>
          rw [if_neg hswapped]
          exact ⟨s', loop_exit hbody fuel, hholds, hcalls⟩

end SortLoop

/-! ## Sort and insert -/

section Insert

variable (compare : ℕ → E → E → ℤ) {list : Dplist E} {cells : List (Addr × E)}

theorem Dplist.WellFormed.beforePass (h : list.WellFormed cells) (hne : cells ≠ []) :
    BeforePass list (cells.map Prod.fst) (cells.map Prod.snd) (cells.length - 1)
      ⟨list.heap, none, 0⟩ := by
  have hpos := List.length_pos_iff.2 hne
  refine ⟨⟨cells, h, rfl, rfl⟩, ?_, by rw [List.length_map]; omega⟩
  exact (List.getElem?_eq_none (by rw [List.length_map]; omega)).symm

/-- What is copied does not depend on the nodes. -/
theorem Dplist.newElement_heap (list : Dplist E) (heap : Heap (DplNode E)) (element : E)
    (insertCopy : Bool) :
    ({ list with heap } : Dplist E).newElement element insertCopy
      = ((list.newElement element insertCopy).1,
          { (list.newElement element insertCopy).2 with heap }) := by
  cases insertCopy <;> rfl

/-- **`dpl_insert_sorted` on a list that is not empty**: bubble sort, and an insertion at the index of
    the search. -/
theorem Dplist.WellFormed.insertSorted (h : list.WellFormed cells) (hne : cells ≠ []) {block : Addr}
    (hblock : block ∉ list.heap) (element : E) (insertCopy : Bool) :
    ∃ sorted cells' index head heap,
      ({ list with heap := sorted } : Dplist E).WellFormed cells' ∧
      cells'.map Prod.fst = cells.map Prod.fst ∧
      cells'.map Prod.snd
        = (bubbleSort (swaps compare) (cells.length - 1) 0 (cells.map Prod.snd)).1 ∧
      ({ list with heap := sorted } : Dplist E).sortedIndex compare
        (bubbleSort (swaps compare) (cells.length - 1) 0 (cells.map Prod.snd)).2 element
          = some index ∧
      dplInsertSortedWith compare list element insertCopy (some block)
        = some { (list.newElement element insertCopy).2 with head, heap } ∧
      ({ (list.newElement element insertCopy).2 with head, heap } : Dplist E).WellFormed
        (cells'.insertIdx (clampIndex index cells'.length)
          (block, (list.newElement element insertCopy).1)) := by
  have hpos := List.length_pos_iff.2 hne
  have hfuel : cells.length - 1 < list.heap.walkFuel := by
    have hlt := h.length_lt_walkFuel
    omega
  obtain ⟨s, hloop, ⟨cells', hwf, haddrs, hvals⟩, hcalls⟩ :=
    (h.beforePass hne).loop_eq compare hfuel
  have hlen : cells'.length = cells.length := by
    simpa using congrArg List.length haddrs
  have hne' : cells' ≠ [] := List.length_pos_iff.1 (by omega)
  have hblock' : block ∉ s.heap := by
    intro hmem
    refine hblock ((h.mem_heap block).2 ?_)
    rw [← haddrs]
    exact (hwf.mem_heap block).1 hmem
  obtain ⟨index, hindex⟩ : ∃ index,
      ({ list with heap := s.heap } : Dplist E).sortedIndex compare s.calls element = some index := by
    unfold Dplist.sortedIndex
    rw [hwf.scan_eq hne']
    exact exists_scanCells hne' 0
  obtain ⟨head, heap, hins, hwf'⟩ := hwf.insertAtIndex hblock' element index insertCopy
  rw [Dplist.newElement_heap] at hins hwf'
  refine ⟨s.heap, cells', index, head, heap, hwf, haddrs, hvals, hcalls ▸ hindex, ?_, hwf'⟩
  unfold dplInsertSortedWith
  rw [if_neg fun hhead => hne (h.head_eq_none.1 hhead), hloop]
  simp only [Option.bind_eq_bind, Option.bind_some, hindex]
  exact hins

/-- **The sort loop is safe for any comparison function**, even one that is no order and that answers
    differently each time. It ends after at most as many passes as there are nodes. No pass starts
    with the boundary at the head, each stops at the boundary, and follows no `NULL`. One node is
    inserted, and no element is lost or duplicated. -/
theorem insert_sorted_safe (compare : ℕ → E → E → ℤ) {list : Dplist E} {cells : List (Addr × E)}
    (h : list.WellFormed cells) (hne : cells ≠ []) {block : Addr} (hblock : block ∉ list.heap)
    (element : E) (insertCopy : Bool) :
    (∃ s, loop (sortBody compare list.head) cells.length ⟨list.heap, none, 0⟩ = some s) ∧
    (∀ s, LoopVisits (sortBody compare list.head) ⟨list.heap, none, 0⟩ s →
      s.ldummy ≠ list.head ∧
      (∃ pass node, loop (passBody compare s.ldummy) s.heap.walkFuel
          ⟨s.heap, list.head, false, s.calls⟩ = some pass ∧
        pass.heap.load pass.dummy = some node ∧ node.next = s.ldummy) ∧
      ∀ t, LoopVisits (passBody compare s.ldummy) ⟨s.heap, list.head, false, s.calls⟩ t →
        ∃ node, t.heap.load t.dummy = some node ∧ (node.next = s.ldummy ∨ node.next ≠ none)) ∧
    ∃ list' cells', dplInsertSortedWith compare list element insertCopy (some block) = some list' ∧
      list'.WellFormed cells' ∧
      (cells'.map Prod.fst).Perm (block :: cells.map Prod.fst) ∧
      (cells'.map Prod.snd).Perm
        ((list.newElement element insertCopy).1 :: cells.map Prod.snd) := by
  have hpos := List.length_pos_iff.2 hne
  refine ⟨?_, ?_, ?_⟩
  · obtain ⟨s, hloop, -⟩ := (h.beforePass hne).loop_eq compare
      (by omega : cells.length - 1 < cells.length)
    exact ⟨s, hloop⟩
  · intro s hvisits
    obtain ⟨m, vals, hbefore⟩ : ∃ m vals, BeforePass list (cells.map Prod.fst) vals m s := by
      refine hvisits.invariant (fun s => ∃ m vals, BeforePass list (cells.map Prod.fst) vals m s)
        ⟨_, _, h.beforePass hne⟩ ?_
      rintro s s' ⟨m, vals, hbefore⟩ hnext
      obtain ⟨m', vals', -, hbefore'⟩ := hbefore.next compare hnext
      exact ⟨m', vals', hbefore'⟩
    obtain ⟨x, xs, rfl⟩ := hbefore.exists_cons
    obtain ⟨pass, node, hloop, hnode, hnext, -⟩ := hbefore.pass compare
    refine ⟨hbefore.ldummy_ne_head, ⟨pass, node, hloop, hnode, hnext⟩, ?_⟩
    intro t ht
    exact passBody_safe (ht.body_ne_none hloop)
  · obtain ⟨sorted, cells', index, head, heap, -, haddrs, hvals, -, hins, hwf⟩ :=
      h.insertSorted compare hne hblock element insertCopy
    have hle : clampIndex index cells'.length ≤ cells'.length := Nat.min_le_right ..
    have hperm := List.perm_insertIdx (block, (list.newElement element insertCopy).1) cells' hle
    refine ⟨_, _, hins, hwf, ?_, ?_⟩
    · rw [← haddrs]
      exact hperm.map Prod.fst
    · refine (hperm.map Prod.snd).trans ?_
      rw [List.map_cons, hvals]
      exact (bubbleSort_perm _ _ _ _).cons _

end Insert

/-- `exampleDplCalls` leaves 50 and 20, which a function that always says "greater" exchanges. -/
theorem insert_sorted_safe_example :
    ∃ list' elements, dplInsertSortedWith (fun _ _ _ => 1)
        ((dplSystem (fun _ n => n) fun (m n : ℕ) => (m : ℤ) - n).after exampleDplCalls) 30 false
        (some 7) = some list' ∧
      list'.elements = some elements ∧ elements.Perm [30, 50, 20] := by
  have hrefines := dplSystem_after_refines (fun _ n => n) (fun (m n : ℕ) => (m : ℤ) - n)
    exampleDplCalls (by decide)
  obtain ⟨-, -, list', cells', hins, hwf, -, hperm⟩ :=
    insert_sorted_safe (fun _ _ _ => 1) hrefines.wellFormed (by decide)
      (by decide : 7 ∉ _) 30 false
  exact ⟨list', _, hins, hwf.elements_eq, hperm⟩

/-! ## The order -/

section Order

variable {list : Dplist E} {cells : List (Addr × E)} {elementCompare : E → E → ℤ}

/-- A comparison function that returns -1, 0 or 1 and whose "not greater" is a total preorder. -/
structure IsThreeWay (compare : E → E → ℤ) : Prop where
  range : ∀ x y, compare x y = -1 ∨ compare x y = 0 ∨ compare x y = 1
  total : ∀ x y, compare x y ≤ 0 ∨ compare y x ≤ 0
  trans : ∀ x y z, compare x y ≤ 0 → compare y z ≤ 0 → compare x z ≤ 0

/-- Neither of a copy and its original is greater than the other. -/
def CopiesAlike (elementCopy : ℕ → E → E) (compare : E → E → ℤ) : Prop :=
  ∀ n x, compare (elementCopy n x) x ≤ 0 ∧ compare x (elementCopy n x) ≤ 0

/-- "Not greater". -/
def NotGreater (compare : E → E → ℤ) (x y : E) : Prop := compare x y ≤ 0

theorem IsThreeWay.isTrans (h : IsThreeWay elementCompare) : IsTrans E (NotGreater elementCompare) :=
  ⟨h.trans⟩

theorem IsThreeWay.isTotal (h : IsThreeWay elementCompare) : Std.Total (NotGreater elementCompare) :=
  ⟨h.total⟩

theorem IsThreeWay.eq_one_iff (h : IsThreeWay elementCompare) (x y : E) :
    elementCompare x y = 1 ↔ ¬ NotGreater elementCompare x y := by
  unfold NotGreater
  rcases h.range x y with hc | hc | hc <;> omega

/-- The comparison function of the list in every call. -/
theorem IsThreeWay.swaps_iff (h : IsThreeWay list.elementCompare) (c : ℕ) (x y : E) :
    swaps (fun _ => list.elementCompare) c x y = true ↔ ¬ NotGreater list.elementCompare x y := by
  rw [swaps, decide_eq_true_iff]
  exact h.eq_one_iff x y

/-- The search ends at the first element that is greater. -/
theorem Dplist.WellFormed.sortedIndex_eq (h : list.WellFormed cells) (hne : cells ≠ []) (calls : ℕ)
    (element : E) :
    list.sortedIndex (fun _ => list.elementCompare) calls element
      = some ((cells.map Prod.snd).findIdx fun x => decide (list.elementCompare x element = 1) : ℕ) := by
  have hscan := scanCells_findIdx
    (fun cell : Addr × E => decide (list.elementCompare cell.2 element = 1)) hne 0
  simp only [decide_eq_true_iff, Int.zero_add] at hscan
  unfold Dplist.sortedIndex
  rw [h.scan_eq hne, hscan, List.findIdx_map]
  rfl

/-- The element that is inserted compares like the one that was passed. -/
theorem IsThreeWay.newElement (h : IsThreeWay list.elementCompare) {insertCopy : Bool}
    (hcopy : insertCopy = true → CopiesAlike list.elementCopy list.elementCompare) (element x : E) :
    NotGreater list.elementCompare x (list.newElement element insertCopy).1
      ↔ NotGreater list.elementCompare x element := by
  cases insertCopy with
  | false => exact Iff.rfl
  | true =>
      obtain ⟨hle, hge⟩ := hcopy rfl list.copied.length element
      exact ⟨fun hx => h.trans _ _ _ hx hle, fun hx => h.trans _ _ _ hx hge⟩

/-- **With a comparison function that always answers the same**, what the list holds afterwards is
    `sortInsert` of what it held. -/
theorem Dplist.WellFormed.insertSorted_elements (h : list.WellFormed cells) (element : E)
    (insertCopy : Bool) {block : Addr} (hblock : block ∉ list.heap) :
    ∃ list' cells', dplInsertSorted list element insertCopy (some block) = some list' ∧
      list'.WellFormed cells' ∧
      cells'.map Prod.snd = sortInsert (swaps fun _ => list.elementCompare)
        (fun x => decide (list.elementCompare x element = 1))
        (list.newElement element insertCopy).1 (cells.map Prod.snd) := by
  by_cases hne : cells = []
  · subst hne
    obtain ⟨head, heap, hins, hwf⟩ := h.insertAtIndex hblock element 0 insertCopy
    exact ⟨_, _, (if_pos (h.head_eq_none.2 rfl)).trans hins, hwf, rfl⟩
  · obtain ⟨sorted, cells', index, head, heap, hsorted, haddrs, hvals, hindex, hins, hwf⟩ :=
      h.insertSorted (fun _ => list.elementCompare) hne hblock element insertCopy
    have hne' : cells' ≠ [] := by
      rintro rfl
      exact hne (List.map_eq_nil_iff.1 haddrs.symm)
    rw [hsorted.sortedIndex_eq hne'] at hindex
    obtain rfl := Option.some.inj hindex
    refine ⟨_, _, hins, hwf, ?_⟩
    -- the index of the search is in the list or behind it
    have hle : (cells'.map Prod.snd).findIdx (fun x => decide (list.elementCompare x element = 1))
        ≤ (cells'.map Prod.snd).length := List.findIdx_le_length
    rw [List.length_map] at hle
    rw [clampIndex, Int.toNat_natCast, Nat.min_eq_left hle, List.map_insertIdx, sortInsert, hvals,
      List.length_map]

/-- **`dpl_insert_sorted` sorts.** Whatever the order of the list, the result is ascending and has the
    old elements and the new one. If the list was sorted, its elements stay as they are, and the new
    one is behind all that are not greater. -/
theorem insert_sorted_sorts (h : list.WellFormed cells) (horder : IsThreeWay list.elementCompare)
    {insertCopy : Bool}
    (hcopy : insertCopy = true → CopiesAlike list.elementCopy list.elementCompare) (element : E)
    {block : Addr} (hblock : block ∉ list.heap) :
    ∃ list' cells', dplInsertSorted list element insertCopy (some block) = some list' ∧
      list'.WellFormed cells' ∧
      (cells'.map Prod.snd).Pairwise (NotGreater list.elementCompare) ∧
      (cells'.map Prod.snd).Perm
        ((list.newElement element insertCopy).1 :: cells.map Prod.snd) ∧
      ((cells.map Prod.snd).Pairwise (NotGreater list.elementCompare) →
        ∃ front back, cells.map Prod.snd = front ++ back ∧
          cells'.map Prod.snd = front ++ (list.newElement element insertCopy).1 :: back ∧
          (∀ x ∈ front, NotGreater list.elementCompare x (list.newElement element insertCopy).1) ∧
          ∀ y ∈ back, list.elementCompare y (list.newElement element insertCopy).1 = 1) := by
  have := horder.isTrans
  have := horder.isTotal
  have hP : ∀ z, decide (list.elementCompare z element = 1) = true
      ↔ ¬ NotGreater list.elementCompare z (list.newElement element insertCopy).1 := fun z => by
    rw [decide_eq_true_iff, horder.newElement hcopy, horder.eq_one_iff]
  obtain ⟨list', cells', hins, hwf, helements⟩ := h.insertSorted_elements element insertCopy hblock
  obtain ⟨hascending, hperm, hstable⟩ :=
    sortInsert_sorted horder.swaps_iff hP (cells.map Prod.snd)
  rw [← helements] at hascending hperm hstable
  refine ⟨list', cells', hins, hwf, hascending, hperm, ?_⟩
  intro hold
  obtain ⟨front, back, hsplit, hresult, hfront, hback⟩ := hstable hold
  exact ⟨front, back, hsplit, hresult, hfront, fun y hy => (horder.eq_one_iff y _).2 (hback y hy)⟩

end Order

/-- `exampleDplCalls` leaves 50 and 20, and a copy of 30 goes between them. -/
theorem insert_sorted_sorts_example :
    ∃ list' elements, dplInsertSorted
        ((dplSystem (fun _ n => n) fun (m n : ℕ) => ((m : ℤ) - n).sign).after exampleDplCalls) 30
        true (some 7) = some list' ∧
      list'.elements = some elements ∧
      elements.Pairwise (NotGreater fun (m n : ℕ) => ((m : ℤ) - n).sign) ∧
      elements.Perm [30, 50, 20] := by
  have hrefines := dplSystem_after_refines (fun _ n => n) (fun (m n : ℕ) => ((m : ℤ) - n).sign)
    exampleDplCalls (by decide)
  have horder : IsThreeWay fun (m n : ℕ) => ((m : ℤ) - n).sign := by
    refine ⟨fun m n => ?_, fun m n => ?_, fun m n k => ?_⟩
    · rcases Int.sign_trichotomy ((m : ℤ) - n) with hc | hc | hc <;> simp [hc]
    · simp only [Int.sign_nonpos_iff]
      omega
    · simp only [Int.sign_nonpos_iff]
      omega
  have hcopy : true = true → CopiesAlike (fun _ (n : ℕ) => n) fun m n => ((m : ℤ) - n).sign :=
    fun _ _ n => by simp
  obtain ⟨list', cells', hins, hwf, hsorted, hperm, -⟩ :=
    insert_sorted_sorts hrefines.wellFormed horder hcopy 30 (by decide : 7 ∉ _)
  exact ⟨list', _, hins, hwf.elements_eq, hsorted, hperm⟩

end SensorGateway
