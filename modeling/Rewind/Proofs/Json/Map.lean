import Rewind.Proofs.Json.Form

/-!
Written forms of maps.

A map is kept in the strict order of its keys. It may be written in any order, and it is read in
that of its keys: every entry is put where it belongs, so the result is a permutation of what was
written, and there is only one that is in order.

Main statements: `Json.asMap_of_perm` and `Json.Faithful.ofMap`.
-/

namespace Rewind.Json

variable {α : Type} {encode : α → Json} {decode : Decoder α} {IsProper : α → Prop}

/-- In the strict order of the keys. -/
def Sorted (map : List (String × α)) : Prop :=
  map.Pairwise fun entry later => entry.1 < later.1

theorem Sorted.nodup_keys {map : List (String × α)} (h : Sorted map) :
    (map.map Prod.fst).Nodup := by
  refine List.pairwise_map.mpr (h.imp ?_)
  intro entry later hlt heq
  rw [heq] at hlt
  exact String.lt_irrefl _ hlt

theorem mem_insertSorted {key : String} {value : α} {map : List (String × α)} {entry : String × α}
    (h : entry ∈ insertSorted key value map) : entry = (key, value) ∨ entry ∈ map := by
  induction map with
  | nil => exact .inl (List.mem_singleton.mp h)
  | cons first map ih =>
      obtain ⟨other, old⟩ := first
      unfold insertSorted at h
      split at h
      · exact List.mem_cons.mp h
      split at h
      · exact (List.mem_cons.mp h).imp_right (List.mem_cons_of_mem _)
      · rcases List.mem_cons.mp h with rfl | h
        · exact .inr List.mem_cons_self
        · exact (ih h).imp_right (List.mem_cons_of_mem _)

theorem Sorted.insertSorted {map : List (String × α)} (h : Sorted map) (key : String) (value : α) :
    Sorted (insertSorted key value map) := by
  induction map with
  | nil => exact List.pairwise_singleton _ _
  | cons first map ih =>
      obtain ⟨other, old⟩ := first
      obtain ⟨hfirst, hrest⟩ := List.pairwise_cons.mp h
      unfold Json.insertSorted
      split
      · next hless =>
          refine List.pairwise_cons.mpr ⟨fun entry hentry => ?_, h⟩
          rcases List.mem_cons.mp hentry with rfl | hentry
          · exact hless
          · exact String.lt_trans hless (hfirst entry hentry)
      split
      · next heq =>
          subst heq
          exact List.pairwise_cons.mpr ⟨hfirst, hrest⟩
      · next hless hne =>
          refine List.pairwise_cons.mpr ⟨fun entry hentry => ?_, ih hrest⟩
          rcases mem_insertSorted hentry with rfl | hentry
          · exact Std.lt_of_le_of_ne (String.not_lt.mp hless) hne
          · exact hfirst entry hentry

theorem insertSorted_perm {key : String} (value : α) {map : List (String × α)}
    (h : key ∉ map.map Prod.fst) : (insertSorted key value map).Perm ((key, value) :: map) := by
  induction map with
  | nil => exact List.Perm.refl _
  | cons first map ih =>
      obtain ⟨other, old⟩ := first
      rw [List.map_cons, List.mem_cons, not_or] at h
      unfold insertSorted
      split
      · exact List.Perm.refl _
      split
      · next heq => exact absurd heq.symm h.1
      · exact ((ih h.2).cons _).trans (List.Perm.swap _ _ _)

/-- What is read of entries with different keys: the same entries, in order. -/
theorem exists_foldlM_insertSorted (h : Faithful encode decode IsProper)
    (written start : List (String × α)) (hsorted : Sorted start)
    (hproper : ∀ entry ∈ written, IsProper entry.2)
    (hdistinct : ((written ++ start).map Prod.fst).Nodup) :
    ∃ map, (written.map fun entry => (entry.1, encode entry.2)).foldlM
        (fun map entry => (decode entry.2).map fun value => insertSorted entry.1 value map) start
          = .ok map ∧ Sorted map ∧ map.Perm (written ++ start) := by
  induction written generalizing start with
  | nil => exact ⟨start, rfl, hsorted, List.Perm.refl _⟩
  | cons entry written ih =>
      obtain ⟨key, value⟩ := entry
      rw [List.cons_append, List.map_cons, List.nodup_cons, List.map_append, List.mem_append,
        not_or] at hdistinct
      have hperm := insertSorted_perm value hdistinct.1.2
      have hmove :
          (written ++ insertSorted key value start).Perm ((key, value) :: written ++ start) :=
        (hperm.append_left written).trans List.perm_middle
      obtain ⟨map, hread, hmap, hsame⟩ := ih (insertSorted key value start)
        (hsorted.insertSorted key value)
        (fun each heach => hproper each (List.mem_cons_of_mem _ heach))
        ((hmove.map Prod.fst).nodup_iff.mpr (by
          rw [List.cons_append, List.map_cons, List.nodup_cons, List.map_append, List.mem_append,
            not_or]
          exact hdistinct))
      refine ⟨map, ?_, hmap, hsame.trans hmove⟩
      rw [List.map_cons, List.foldlM_cons, h.decode_encode value (hproper _ List.mem_cons_self)]
      exact hread

/-- A map is read the same whatever the order in which it was written. -/
theorem asMap_of_perm (h : Faithful encode decode IsProper) {written map : List (String × α)}
    (hmap : Sorted map) (hproper : ∀ entry ∈ map, IsProper entry.2) (hperm : written.Perm map) :
    asMap decode (.obj (written.map fun entry => (entry.1, encode entry.2))) = .ok map := by
  have hkeys := hmap.nodup_keys
  obtain ⟨found, hread, hfound, hsame⟩ := exists_foldlM_insertSorted h written [] .nil
    (fun entry hentry => hproper entry (hperm.subset hentry))
    (by rw [List.append_nil]; exact (hperm.map Prod.fst).nodup_iff.mpr hkeys)
  rw [List.append_nil] at hsame
  have heq : found = map := (hsame.trans hperm).eq_of_pairwise
    (fun _ _ _ _ hlt hgt => absurd hgt (String.lt_asymm hlt)) hfound hmap
  exact heq ▸ hread

theorem proper_of_foldlM (h : Faithful encode decode IsProper) {members : List (String × Json)}
    {start map : List (String × α)}
    (hread : members.foldlM
      (fun map entry => (decode entry.2).map fun value => insertSorted entry.1 value map) start
        = .ok map)
    (hstart : Sorted start ∧ ∀ entry ∈ start, IsProper entry.2) :
    Sorted map ∧ ∀ entry ∈ map, IsProper entry.2 := by
  induction members generalizing start with
  | nil =>
      obtain rfl := Except.ok.inj hread
      exact hstart
  | cons member members ih =>
      simp only [List.foldlM_cons, bind_eq_ok, map_eq_ok] at hread
      obtain ⟨_, ⟨value, hvalue, rfl⟩, hread⟩ := hread
      refine ih hread ⟨hstart.1.insertSorted _ _, fun entry hentry => ?_⟩
      rcases mem_insertSorted hentry with rfl | hentry
      · exact h.proper _ _ hvalue
      · exact hstart.2 entry hentry

theorem Faithful.plain_map (h : Faithful encode decode IsProper) {map : List (String × α)}
    (hproper : ∀ entry ∈ map, IsProper entry.2) :
    (obj (map.map fun entry => (entry.1, encode entry.2))).Plain := by
  refine plain_obj.mpr fun member hmember => ?_
  obtain ⟨entry, hentry, rfl⟩ := List.mem_map.mp hmember
  exact h.plain _ (hproper entry hentry)

theorem Faithful.ofMap (h : Faithful encode decode IsProper) :
    Faithful (fun map : List (String × α) => .obj (map.map fun entry => (entry.1, encode entry.2)))
      (asMap decode) fun map => Sorted map ∧ ∀ entry ∈ map, IsProper entry.2 where
  decode_encode map hmap := asMap_of_perm h hmap.1 hmap.2 (List.Perm.refl map)
  plain _ hmap := h.plain_map hmap.2
  proper json map hread := by
    cases json with
    | obj members => exact proper_of_foldlM h hread ⟨.nil, fun _ h => absurd h List.not_mem_nil⟩
    | _ => cases hread

end Rewind.Json
