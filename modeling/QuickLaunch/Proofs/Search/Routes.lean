import Mathlib.Data.List.Induction
import Mathlib.Data.List.Nodup
import Mathlib.Data.List.Sigma
import Mathlib.Data.List.Sort
import QuickLaunch.Search.Router

/-!
# The order of answers

Registering puts a handler behind all that are asked before it. Handlers of one priority cannot be
told apart by it, so a registration is numbered by how many there were before, and a list is in turn
when its registrations increase by priority and, for one priority, by number.

* `InTurn.insert`: one registration keeps the list in turn;
* `inTurn_handlers`: so does every sequence of them;
* `InTurn.eq_mergeSort`: a list in turn is the stable sort of the registrations;
* `route_ofList`: what a router answers, whatever was registered.
-/

namespace QuickLaunch.Router

variable {h : Handler} {hs hs' asked : List Handler} {turns : List (Handler × Nat)}

/-- The router with some handlers registered, one after another. -/
def ofList (hs : List Handler) : Router :=
  hs.foldl register {}

theorem ofList_concat (hs : List Handler) (h : Handler) :
    ofList (hs ++ [h]) = (ofList hs).register h := by
  rw [ofList, List.foldl_concat, ofList]

/-- One registration comes before another: its priority is less, or it is the same and the number
of the registration is less. -/
def Before (a b : Handler × Nat) : Prop :=
  a.1.priority < b.1.priority ∨ a.1.priority = b.1.priority ∧ a.2 < b.2

/-- The handlers are asked in turn: every registration of `hs` once, and before those that it comes
before. -/
def InTurn (hs asked : List Handler) : Prop :=
  ∃ turns : List (Handler × Nat),
    turns.Perm hs.zipIdx ∧ turns.Pairwise Before ∧ turns.map Prod.fst = asked

/-! ## Registering -/

theorem pairwise_zipIdx_lt (hs : List Handler) : hs.zipIdx.Pairwise (·.2 < ·.2) := by
  refine List.pairwise_map.mp ?_
  rw [List.zipIdx_map_snd]
  exact List.pairwise_lt_range'

/-- Handlers that stand in order of priority are in turn as they stand. -/
theorem inTurn_of_sorted (hs : List Handler) (hsort : hs.Pairwise (·.priority ≤ ·.priority)) :
    InTurn hs hs := by
  refine ⟨hs.zipIdx, .refl _, ?_, List.zipIdx_map_fst 0 hs⟩
  rw [← List.zipIdx_map_fst 0 hs, List.pairwise_map] at hsort
  refine (hsort.and (pairwise_zipIdx_lt hs)).imp fun {a b} hab => ?_
  exact (lt_or_eq_of_le hab.1).imp_right fun he => ⟨he, hab.2⟩

/-- A handler is inserted behind the registrations that come before its own, which is the last. -/
theorem exists_turns_insert {n : Nat} (hp : turns.Pairwise Before) (hn : ∀ t ∈ turns, t.2 < n) :
    ∃ turns' : List (Handler × Nat), turns'.Perm ((h, n) :: turns) ∧ turns'.Pairwise Before
      ∧ turns'.map Prod.fst = insert h (turns.map Prod.fst) := by
  induction turns with
  | nil => exact ⟨[(h, n)], .refl _, List.pairwise_singleton _ _, rfl⟩
  | cons t rest ih =>
    obtain ⟨hfirst, hrest⟩ := List.pairwise_cons.mp hp
    rw [List.map_cons, insert]
    split_ifs with hle
    · obtain ⟨turns', hperm, hp', hmap⟩ := ih hrest fun u hu => hn u (List.mem_cons_of_mem t hu)
      refine ⟨t :: turns', (hperm.cons t).trans (List.Perm.swap _ _ rest), ?_, by simp [hmap]⟩
      refine List.pairwise_cons.mpr ⟨fun u hu => ?_, hp'⟩
      rcases List.mem_cons.mp (hperm.mem_iff.mp hu) with rfl | hu
      · exact (lt_or_eq_of_le hle).imp_right fun he => ⟨he, hn t List.mem_cons_self⟩
      · exact hfirst u hu
    · refine ⟨(h, n) :: t :: rest, .refl _, ?_, rfl⟩
      refine List.pairwise_cons.mpr ⟨fun u hu => .inl ?_, hp⟩
      have hlt : h.priority < t.1.priority := not_le.mp hle
      rcases List.mem_cons.mp hu with rfl | hu
      · exact hlt
      · exact (hfirst u hu).elim hlt.trans fun he => he.1 ▸ hlt

/-- One more registration, and the handlers are still in turn. -/
theorem InTurn.insert (ht : InTurn hs asked) (h : Handler) :
    InTurn (hs ++ [h]) (insert h asked) := by
  obtain ⟨turns, hperm, hp, rfl⟩ := ht
  have hn : ∀ t ∈ turns, t.2 < hs.length := fun t ht =>
    List.snd_lt_of_mem_zipIdx (hperm.mem_iff.mp ht)
  obtain ⟨turns', hperm', hp', hmap⟩ := exists_turns_insert (h := h) hp hn
  refine ⟨turns', ?_, hp', hmap⟩
  rw [List.zipIdx_append, Nat.zero_add]
  exact (hperm'.trans (hperm.cons _)).trans (List.perm_append_singleton _ _).symm

/-- Whatever was registered, the handlers are in turn. -/
theorem inTurn_handlers (hs : List Handler) : InTurn hs (ofList hs).handlers := by
  induction hs using List.reverseRecOn with
  | nil => exact inTurn_of_sorted [] List.Pairwise.nil
  | append_singleton hs h ih =>
    rw [ofList_concat]
    exact ih.insert h

/-! ## Sorting -/

/-- The first handler need not be asked behind the second. -/
def asks (g h : Handler) : Bool :=
  decide (g.priority ≤ h.priority)

theorem InTurn.sorted (ht : InTurn hs asked) : asked.Pairwise (·.priority ≤ ·.priority) := by
  obtain ⟨turns, -, hp, rfl⟩ := ht
  exact List.pairwise_map.mpr (hp.imp fun hab => hab.elim le_of_lt fun he => le_of_eq he.1)

theorem InTurn.perm (ht : InTurn hs asked) : asked.Perm hs := by
  obtain ⟨turns, hperm, -, rfl⟩ := ht
  simpa using hperm.map Prod.fst

theorem zipIdxLE_of_before {a b : Handler × Nat} (hab : Before a b) :
    List.zipIdxLE asks a b = true := by
  rcases hab with hlt | ⟨he, hlt⟩
  · simp [List.zipIdxLE, asks, hlt.le, hlt]
  · simp [List.zipIdxLE, asks, he, hlt.le]

/-- The numbers decide between registrations that are asked before each other. -/
theorem snd_eq_of_zipIdxLE {a b : Handler × Nat} (hab : List.zipIdxLE asks a b = true)
    (hba : List.zipIdxLE asks b a = true) : a.2 = b.2 := by
  simp only [List.zipIdxLE] at hab hba
  split_ifs at hab hba
  exact le_antisymm (of_decide_eq_true hab) (of_decide_eq_true hba)

/-- There is one way to ask handlers in turn, the stable sort. -/
theorem InTurn.eq_mergeSort (ht : InTurn hs asked) : asked = hs.mergeSort asks := by
  obtain ⟨turns, hperm, hp, rfl⟩ := ht
  have htrans : ∀ a b c : Handler, asks a b = true → asks b c = true → asks a c = true := by
    intro a b c hab hbc
    exact decide_eq_true ((of_decide_eq_true hab).trans (of_decide_eq_true hbc))
  have htotal : ∀ a b : Handler, (asks a b || asks b a) = true := by
    intro a b
    simpa [asks] using le_total a.priority b.priority
  have hsort : hs.zipIdx.mergeSort (List.zipIdxLE asks) = turns := by
    refine List.Perm.eq_of_pairwise (fun a b ha hb hab hba => ?_)
      (List.pairwise_mergeSort (List.zipIdxLE_trans htrans) (List.zipIdxLE_total htotal) _)
      (hp.imp zipIdxLE_of_before) ((List.mergeSort_perm _ _).trans hperm.symm)
    exact List.inj_on_of_nodup_map (List.nodup_zipIdx_map_snd hs) (List.mem_mergeSort.mp ha)
      (hperm.mem_iff.mp hb) (snd_eq_of_zipIdxLE hab hba)
  rw [← List.mergeSort_zipIdx, hsort]

/-- Registering a handler is putting it at the end and sorting. -/
theorem handlers_register {r : Router} (hr : r.handlers.Pairwise (·.priority ≤ ·.priority))
    (h : Handler) : (r.register h).handlers = (r.handlers ++ [h]).mergeSort asks :=
  ((inTurn_of_sorted _ hr).insert h).eq_mergeSort

/-- The handlers when they are sorted anew behind each registration. -/
def resorted (hs : List Handler) : List Handler :=
  hs.foldl (fun asked h => (asked ++ [h]).mergeSort asks) []

theorem handlers_ofList (hs : List Handler) : (ofList hs).handlers = resorted hs := by
  induction hs using List.reverseRecOn with
  | nil => rfl
  | append_singleton hs h ih =>
    rw [ofList_concat, handlers_register (inTurn_handlers hs).sorted, ih, resorted, resorted,
      List.foldl_concat]

/-- Handlers that all differ in priority are in turn in one order only. -/
theorem InTurn.unique {asked' : List Handler} (ht : InTurn hs asked) (ht' : InTurn hs' asked')
    (hperm : hs'.Perm hs) (hd : (hs.map (·.priority)).Nodup) : asked' = asked := by
  refine List.Perm.eq_of_pairwise (fun a b ha hb hab hba => ?_) ht'.sorted ht.sorted
    ((ht'.perm.trans hperm).trans ht.perm.symm)
  exact List.inj_on_of_nodup_map hd ((ht'.perm.trans hperm).mem_iff.mp ha) (ht.perm.mem_iff.mp hb)
    (le_antisymm hab hba)

/-! ## Answers -/

/-- Whatever was registered, a router answers a blank query with nothing and any other one with the
answers of all registrations in turn. Its handlers are the stable sort of the registrations, whether
they are sorted behind each of them or once at the end, and where all priorities differ it does not
matter in which order they were registered. -/
theorem route_ofList (hs : List Handler) :
    (∀ query, Text.isBlank query = true → (ofList hs).route query = [])
      ∧ (∃ asked, InTurn hs asked ∧ ∀ q, Text.isBlank (some q) = false →
          (ofList hs).route (some q) = (asked.map (·.answer q)).flatten)
      ∧ (ofList hs).handlers = resorted hs ∧ resorted hs = hs.mergeSort asks
      ∧ ∀ hs', hs'.Perm hs → (hs.map (·.priority)).Nodup →
          ∀ query, (ofList hs').route query = (ofList hs).route query := by
  have hturn : InTurn hs (ofList hs).handlers := inTurn_handlers hs
  refine ⟨fun query hb => ?_, ⟨_, hturn, fun q hb => ?_⟩, handlers_ofList hs,
    (handlers_ofList hs).symm.trans hturn.eq_mergeSort, fun hs' hperm hd query => ?_⟩
  · cases query with
    | none => rfl
    | some q => exact if_pos hb
  · rw [route, if_neg (Bool.eq_false_iff.mp hb), List.flatMap_def]
  · have hsame : (ofList hs').handlers = (ofList hs).handlers :=
      hturn.unique (inTurn_handlers hs') hperm hd
    cases query with
    | none => rfl
    | some q => rw [route, route, hsame]

/-- The two handlers of one priority answer in the order of their registration and before the one
that was registered first. Without one of the two the order of registration does not matter. -/
theorem route_ofList_of_one_priority :
    let handler (priority : Int) (title : String) : Handler :=
      { priority := priority, answer := fun q =>
        [{ icon := "", title := some title, subtitle := some q, category := none,
           action := .noop }] }
    let late := handler 200 "late"
    let first := handler (-5) "first"
    let second := handler (-5) "second"
    Text.isBlank (some " x") = false
      ∧ (ofList [late, first, second]).route (some " x") =
        first.answer " x" ++ second.answer " x" ++ late.answer " x"
      ∧ [first, late].Perm [late, first] ∧ ([late, first].map (·.priority)).Nodup
      ∧ (ofList [first, late]).route (some " x") = (ofList [late, first]).route (some " x") := by
  intro handler late first second
  have hblank : Text.isBlank (some " x") = false := by decide
  have hperm : [first, late].Perm [late, first] := List.Perm.swap late first []
  have hd : ([late, first].map (·.priority)).Nodup := by decide
  obtain ⟨-, ⟨asked, hturn, hroute⟩, hre, hsort, -⟩ := route_ofList [late, first, second]
  have hasked : asked = [first, second, late] :=
    hturn.eq_mergeSort.trans (hsort.symm.trans hre.symm)
  refine ⟨hblank, ?_, hperm, hd, (route_ofList [late, first]).2.2.2.2 _ hperm hd _⟩
  rw [hroute " x" hblank, hasked]
  rfl

end QuickLaunch.Router
