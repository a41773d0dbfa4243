import ResponsiveImages.Json.Value

/-! Members as a map from names to values. Its names keep the order in which they first came in. -/
namespace ResponsiveImages.Members

/-- The names in their order. -/
def names (members : Members) : List String :=
  members.map Prod.fst

/-- No name stands twice. -/
def Distinct (members : Members) : Prop :=
  members.names.Nodup

instance (members : Members) : Decidable members.Distinct :=
  inferInstanceAs (Decidable members.names.Nodup)

@[simp] theorem names_nil : names [] = [] := rfl

@[simp] theorem names_cons (member : String × Json) (members : Members) :
    names (member :: members) = member.1 :: members.names := rfl

theorem get?_cons (member : String × Json) (members : Members) (name : String) :
    get? (member :: members) name = if name = member.1 then some member.2 else members.get? name := by
  unfold get?
  rw [List.lookup_cons]
  by_cases hName : name = member.1
  · rw [if_pos hName, beq_iff_eq.mpr hName]
  · rw [if_neg hName, beq_eq_false_iff_ne.mpr hName]

theorem get?_eq_none_iff {members : Members} {name : String} :
    members.get? name = none ↔ name ∉ members.names := by
  induction members with
  | nil => simp [get?]
  | cons member members ih =>
      rw [get?_cons, names_cons, List.mem_cons, not_or, ← ih]
      split <;> simp [*]

theorem get?_of_mem {members : Members} (h : members.Distinct) {name : String} {value : Json}
    (hMem : (name, value) ∈ members) : members.get? name = some value := by
  induction members with
  | nil => cases hMem
  | cons member members ih =>
      obtain ⟨hNew, hRest⟩ := List.nodup_cons.mp h
      rw [get?_cons]
      rcases List.mem_cons.mp hMem with rfl | hLater
      · rw [if_pos rfl]
      · have hOther : name ≠ member.1 := by
          rintro rfl
          exact hNew (List.mem_map.mpr ⟨_, hLater, rfl⟩)
        rw [if_neg hOther]
        exact ih hRest hLater

/-- Insertion changes the value of one name. -/
theorem get?_insert (members : Members) (name : String) (value : Json) (other : String) :
    (members.insert name value).get? other =
      if other = name then some value else members.get? other := by
  induction members with
  | nil => exact get?_cons (name, value) [] other
  | cons member members ih =>
      obtain ⟨known, old⟩ := member
      by_cases hKnown : known = name
      · subst hKnown
        simp only [insert, beq_self_eq_true, if_true, get?_cons]
        split <;> rfl
      · have hSkip : (known == name) = false := by simpa using hKnown
        simp only [insert, hSkip, Bool.false_eq_true, if_false, get?_cons, ih]
        by_cases hOther : other = known
        · rw [if_pos hOther, if_pos hOther, if_neg (hOther ▸ hKnown)]
        · rw [if_neg hOther, if_neg hOther]

/-- Insertion adds a name behind the others, if it is a new one. -/
theorem names_insert (members : Members) (name : String) (value : Json) :
    (members.insert name value).names =
      if name ∈ members.names then members.names else members.names ++ [name] := by
  induction members with
  | nil => rfl
  | cons member members ih =>
      obtain ⟨known, old⟩ := member
      by_cases hKnown : known = name
      · subst hKnown
        simp [insert]
      · have hSkip : (known == name) = false := by simpa using hKnown
        simp only [insert, hSkip, Bool.false_eq_true, if_false, names_cons, ih, List.mem_cons,
          Ne.symm hKnown, false_or]
        split <;> rfl

theorem Distinct.insert {members : Members} (h : members.Distinct) (name : String) (value : Json) :
    (members.insert name value).Distinct := by
  rw [Distinct, names_insert]
  split
  · exact h
  · rename_i hNew
    refine List.nodup_append.mpr ⟨h, by simp, fun other hOther added hAdded hSame => ?_⟩
    rw [List.mem_singleton.mp hAdded] at hSame
    exact hNew (hSame ▸ hOther)

theorem insert_of_new {members : Members} {name : String} (h : name ∉ members.names)
    (value : Json) : members.insert name value = members ++ [(name, value)] := by
  induction members with
  | nil => rfl
  | cons member members ih =>
      obtain ⟨known, old⟩ := member
      obtain ⟨hKnown, hNew⟩ := not_or.mp (mt List.mem_cons.mpr h)
      have hSkip : (known == name) = false := by simpa using Ne.symm hKnown
      simp [insert, hSkip, ih hNew]

theorem mem_of_mem_insert {members : Members} {name : String} {value : Json}
    {member : String × Json} (h : member ∈ members.insert name value) :
    member = (name, value) ∨ member ∈ members := by
  induction members with
  | nil => exact Or.inl (List.mem_singleton.mp h)
  | cons first members ih =>
      obtain ⟨known, old⟩ := first
      rw [insert] at h
      split at h
      · rename_i hKnown
        rcases List.mem_cons.mp h with rfl | hRest
        · exact Or.inl (by rw [beq_iff_eq.mp hKnown])
        · exact Or.inr (List.mem_cons_of_mem _ hRest)
      · rcases List.mem_cons.mp h with rfl | hRest
        · exact Or.inr List.mem_cons_self
        · exact (ih hRest).imp_right (List.mem_cons_of_mem _)

@[simp] theorem merge_nil (base : Members) : base.merge [] = base := rfl

theorem merge_cons (base : Members) (name : String) (value : Json) (layer : Members) :
    base.merge ((name, value) :: layer) = (base.insert name value).merge layer := rfl

/-- Nothing comes out of two layers that is in neither. -/
theorem mem_of_mem_merge {base layer : Members} {member : String × Json}
    (h : member ∈ base.merge layer) : member ∈ base ∨ member ∈ layer := by
  induction layer generalizing base with
  | nil => exact Or.inl h
  | cons first layer ih =>
      rcases ih h with hBase | hLayer
      · rcases mem_of_mem_insert hBase with rfl | hOld
        · exact Or.inr List.mem_cons_self
        · exact Or.inl hOld
      · exact Or.inr (List.mem_cons_of_mem _ hLayer)

theorem Distinct.merge {base : Members} (h : base.Distinct) (layer : Members) :
    (base.merge layer).Distinct := by
  induction layer generalizing base with
  | nil => exact h
  | cons member layer ih => exact ih (h.insert member.1 member.2)

theorem distinct_ofList (members : List (String × Json)) : (ofList members).Distinct :=
  Distinct.merge (show Distinct [] from List.nodup_nil) members

/-- A layer over a base wins for every name that it has. -/
theorem get?_merge (base : Members) {layer : Members} (h : layer.Distinct) (name : String) :
    (base.merge layer).get? name = (layer.get? name <|> base.get? name) := by
  induction layer generalizing base with
  | nil => rfl
  | cons member layer ih =>
      obtain ⟨known, value⟩ := member
      obtain ⟨hKnown, hRest⟩ := List.nodup_cons.mp h
      rw [merge_cons, ih _ hRest, get?_insert, get?_cons]
      by_cases hName : name = known
      · rw [if_pos hName, if_pos hName, hName, get?_eq_none_iff.mpr hKnown]
        rfl
      · rw [if_neg hName, if_neg hName]

/-- The names of a layer come behind those of the base, without the ones that the base has. -/
theorem names_merge (base : Members) {layer : Members} (h : layer.Distinct) :
    (base.merge layer).names = base.names ++ layer.names.filter (· ∉ base.names) := by
  induction layer generalizing base with
  | nil => simp
  | cons member layer ih =>
      obtain ⟨known, value⟩ := member
      obtain ⟨hKnown, hRest⟩ := List.nodup_cons.mp h
      rw [merge_cons, ih _ hRest, names_insert, names_cons]
      by_cases hMem : known ∈ base.names
      · rw [if_pos hMem, List.filter_cons_of_neg (by simpa using hMem)]
      · rw [if_neg hMem, List.filter_cons_of_pos (by simpa using hMem), List.append_assoc,
          List.singleton_append]
        -- The new name does not come again in the layer, so that it does not count there.
        refine congrArg (base.names ++ known :: ·) (List.filter_congr fun name hName => ?_)
        have hOther : name ≠ known := fun hSame => hKnown (hSame ▸ hName)
        simp [hOther]

/-- Over an empty base, or over one that shares no name with it, a layer is appended. -/
theorem merge_of_disjoint {base layer : Members} (h : layer.Distinct)
    (hNew : ∀ name ∈ layer.names, name ∉ base.names) : base.merge layer = base ++ layer := by
  induction layer generalizing base with
  | nil => simp
  | cons member layer ih =>
      obtain ⟨known, value⟩ := member
      obtain ⟨hKnown, hRest⟩ := List.nodup_cons.mp h
      rw [merge_cons, insert_of_new (hNew known List.mem_cons_self), ih hRest, List.append_assoc,
        List.singleton_append]
      intro name hName
      have hOther : name ≠ known := fun hSame => hKnown (hSame ▸ hName)
      simpa [names, hOther] using hNew name (List.mem_cons_of_mem _ hName)

theorem ofList_eq {members : Members} (h : members.Distinct) : ofList members = members :=
  merge_of_disjoint h fun _ _ => List.not_mem_nil

end ResponsiveImages.Members
