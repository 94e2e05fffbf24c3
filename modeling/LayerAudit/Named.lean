/-!
# Named things

Things that are listed with their names, in the order of the names, and looked up by them. Where the names
differ there is one such order, and every thing that is listed is found.
-/

namespace LayerAudit

variable {α : Type} {entries others : List (String × α)}

/-- Named things in the order of their names. -/
def byName (entries : List (String × α)) : List (String × α) :=
  entries.mergeSort fun a b => decide (a.1 ≤ b.1)

/-- Nothing is lost or added where things are put in order. -/
theorem byName_perm (entries : List (String × α)) : (byName entries).Perm entries :=
  List.mergeSort_perm _ _

/-- The things that are put in order are those that were listed. -/
theorem mem_byName {e : String × α} : e ∈ byName entries ↔ e ∈ entries := (byName_perm entries).mem_iff

/-- What is made of things under their names comes in the order of the things. -/
theorem map_byName {β : Type} (entries : List (String × α)) (f : String × α → β) :
    (byName entries).map (fun e => (e.1, f e)) = byName (entries.map fun e => (e.1, f e)) :=
  List.map_mergeSort fun _ _ _ _ => rfl

/-- Things with different names are put in a strict order. -/
theorem pairwise_byName (h : (entries.map Prod.fst).Nodup) :
    (byName entries).Pairwise fun a b => a.1 < b.1 := by
  have hle : (byName entries).Pairwise fun a b => decide (a.1 ≤ b.1) = true := by
    refine List.pairwise_mergeSort (fun a b d hab hbd => ?_) (fun a b => ?_) entries
    · exact decide_eq_true (String.le_trans (of_decide_eq_true hab) (of_decide_eq_true hbd))
    · rw [Bool.or_eq_true, decide_eq_true_eq, decide_eq_true_eq]
      exact String.le_total a.1 b.1
  have hne : (byName entries).Pairwise fun a b => a.1 ≠ b.1 := by
    rw [← List.pairwise_map (R := (· ≠ ·))]
    exact ((byName_perm entries).map Prod.fst).nodup_iff.mpr h
  exact (hle.and hne).imp fun h => Std.lt_of_le_of_ne (of_decide_eq_true h.1) h.2

/-- Things that are in the order of their names stay where they are. -/
theorem byName_eq_self (h : entries.Pairwise fun a b => a.1 ≤ b.1) : byName entries = entries :=
  List.mergeSort_of_pairwise (h.imp decide_eq_true)

/-- A single thing is in order. -/
@[simp] theorem byName_singleton (e : String × α) : byName [e] = [e] :=
  byName_eq_self (List.pairwise_singleton ..)

/-- There is one strict order that things can be put in by their names. -/
theorem byName_eq_of_perm (hperm : others.Perm entries) (hsorted : others.Pairwise fun a b => a.1 < b.1) :
    byName entries = others := by
  have hnames : (entries.map Prod.fst).Nodup :=
    (hperm.map Prod.fst).nodup_iff.mp (List.pairwise_map.mpr (hsorted.imp Std.ne_of_lt))
  refine List.Perm.eq_of_pairwise (fun a b _ _ hab hba => ?_) (pairwise_byName hnames) hsorted
    ((byName_perm entries).trans hperm.symm)
  exact absurd hba (String.lt_asymm hab)

/-- Among things with different names, the one of a name is looked up by it. -/
theorem lookup_eq_some_iff_mem {name : String} {e : α} (h : (entries.map Prod.fst).Nodup) :
    entries.lookup name = some e ↔ (name, e) ∈ entries := by
  induction entries with
  | nil => simp
  | cons first rest ih =>
    obtain ⟨other, kept⟩ := first
    obtain ⟨hother, hrest⟩ := List.nodup_cons.mp h
    rw [List.lookup_cons, List.mem_cons, Prod.mk.injEq]
    by_cases hname : name = other
    · subst hname
      have hnot : (name, e) ∉ rest := fun hmem => hother (List.mem_map.mpr ⟨_, hmem, rfl⟩)
      simp [hnot, eq_comm]
    · rw [beq_eq_false_iff_ne.mpr hname]
      simp [hname, ih hrest]

end LayerAudit
