import TezosNode.Url.Form

set_option autoImplicit false

/-!
# URL: parameters by key

What standing together by key does to a list of parameters: each key keeps its parameters
in their order, and the keys keep the order in which they first appear.  So nothing is lost
or added, what is grouped already may be grouped again or taken for what it was made of,
and the list as a whole keeps its order just where no key comes again after another one.

The proofs go by the first parameter: those of its key, then the list without that key.
-/

namespace TezosNode.Url

/-! ## Parameters of a key -/

/-- The parameters of one key, in their order. -/
def ofKey (key : String) (params : List Param) : List Param := params.filter (·.1 == key)

/-- The parameters of all other keys, in their order. -/
def withoutKey (key : String) (params : List Param) : List Param := params.filter (·.1 != key)

/-- The keys in the order in which they first appear. -/
def keys (params : List Param) : List String := (params.map (·.1)).eraseDups

section Key

variable {key : String} {params : List Param} {p : Param}

theorem mem_ofKey : p ∈ ofKey key params ↔ p ∈ params ∧ p.1 = key := by
  simp only [ofKey, List.mem_filter, beq_iff_eq]

theorem mem_withoutKey : p ∈ withoutKey key params ↔ p ∈ params ∧ p.1 ≠ key := by
  simp only [withoutKey, List.mem_filter, bne_iff_ne]

theorem mem_keys : key ∈ keys params ↔ ∃ p ∈ params, p.1 = key := by
  simp only [keys, List.mem_eraseDups, List.mem_map]

theorem ofKey_append (key : String) (params more : List Param) :
    ofKey key (params ++ more) = ofKey key params ++ ofKey key more :=
  List.filter_append params more

theorem withoutKey_append (key : String) (params more : List Param) :
    withoutKey key (params ++ more) = withoutKey key params ++ withoutKey key more :=
  List.filter_append params more

theorem ofKey_cons_self (p : Param) (rest : List Param) :
    ofKey p.1 (p :: rest) = p :: ofKey p.1 rest :=
  List.filter_cons_of_pos (BEq.rfl : (p.1 == p.1) = true)

theorem ofKey_cons_of_ne (hne : p.1 ≠ key) (rest : List Param) :
    ofKey key (p :: rest) = ofKey key rest :=
  List.filter_cons_of_neg (by simpa using hne)

/-- Parameters that all have one key are those of the key. -/
theorem ofKey_of_forall (hall : ∀ p ∈ params, p.1 = key) : ofKey key params = params :=
  List.filter_eq_self.2 fun p hmem => beq_iff_eq.2 (hall p hmem)

/-- Parameters that all have other keys have none of the key. -/
theorem ofKey_eq_nil (hall : ∀ p ∈ params, p.1 ≠ key) : ofKey key params = [] :=
  List.filter_eq_nil_iff.2 fun p hmem => by simpa using hall p hmem

/-- Parameters that all have other keys stay where a key is taken away. -/
theorem withoutKey_of_forall (hall : ∀ p ∈ params, p.1 ≠ key) : withoutKey key params = params :=
  List.filter_eq_self.2 fun p hmem => bne_iff_ne.2 (hall p hmem)

/-- Another key has the same parameters where a key has been taken away. -/
theorem ofKey_withoutKey {other : String} (hne : key ≠ other) (params : List Param) :
    ofKey key (withoutKey other params) = ofKey key params := by
  rw [ofKey, ofKey, withoutKey, List.filter_filter]
  refine List.filter_congr fun p _ => ?_
  by_cases hkey : p.1 = key
  · simp [hkey, hne]
  · simp [hkey]

end Key

theorem length_withoutKey_le (key : String) (params : List Param) :
    (withoutKey key params).length ≤ params.length :=
  List.length_filter_le _ _

/-! ## By the first parameter -/

/-- Induction over parameters that takes away all of a key at once. -/
@[elab_as_elim]
theorem byKeyInduction {motive : List Param → Prop} (nil : motive [])
    (cons : ∀ (p : Param) (rest : List Param), motive (withoutKey p.1 rest) → motive (p :: rest)) :
    ∀ params, motive params
  | [] => nil
  | p :: rest => cons p rest (byKeyInduction nil cons (withoutKey p.1 rest))
termination_by params => params.length
decreasing_by exact Nat.lt_succ_of_le (length_withoutKey_le p.1 rest)

theorem keys_cons (p : Param) (rest : List Param) :
    keys (p :: rest) = p.1 :: keys (withoutKey p.1 rest) := by
  rw [keys, List.map_cons, List.eraseDups_cons, List.filter_map]
  rfl

/-- First stand the parameters of the first key, and then those of the others. -/
theorem groupByKey_cons (p : Param) (rest : List Param) :
    groupByKey (p :: rest) = p :: ofKey p.1 rest ++ groupByKey (withoutKey p.1 rest) := by
  have hothers : ∀ key ∈ keys (withoutKey p.1 rest),
      ofKey key (p :: rest) = ofKey key (withoutKey p.1 rest) := by
    intro key hmem
    obtain ⟨q, hq, rfl⟩ := mem_keys.1 hmem
    have hne : q.1 ≠ p.1 := (mem_withoutKey.1 hq).2
    rw [ofKey_cons_of_ne hne.symm, ofKey_withoutKey hne]
  change (keys (p :: rest)).flatMap (ofKey · (p :: rest)) =
    _ ++ (keys (withoutKey p.1 rest)).flatMap (ofKey · (withoutKey p.1 rest))
  rw [keys_cons, List.flatMap_cons, ofKey_cons_self, List.flatMap_def, List.flatMap_def,
    List.map_congr_left hothers]

/-! ## What is kept -/

/-- Every key keeps its parameters in their order. -/
theorem ofKey_groupByKey (key : String) (params : List Param) :
    ofKey key (groupByKey params) = ofKey key params := by
  induction params using byKeyInduction with
  | nil => rfl
  | cons p rest ih =>
    rw [groupByKey_cons, ofKey_append, ih]
    by_cases hkey : p.1 = key
    · subst hkey
      rw [ofKey_cons_self, ofKey_cons_self, ofKey_of_forall fun q hq => (mem_ofKey.1 hq).2,
        ofKey_eq_nil fun q hq => (mem_withoutKey.1 hq).2, List.append_nil]
    · rw [ofKey_cons_of_ne hkey, ofKey_cons_of_ne hkey, ofKey_withoutKey (Ne.symm hkey),
        ofKey_eq_nil fun q hq => (mem_ofKey.1 hq).2 ▸ hkey, List.nil_append]

/-- No parameter is lost or added. -/
theorem groupByKey_perm (params : List Param) : (groupByKey params).Perm params := by
  have hcount : ∀ (p : Param) (ps : List Param), ps.count p = (ofKey p.1 ps).count p :=
    fun p ps => (List.count_filter (by simp)).symm
  refine List.perm_iff_count.2 fun p => ?_
  rw [hcount, ofKey_groupByKey, ← hcount]

theorem mem_groupByKey {κ ν : Type} [BEq κ] [LawfulBEq κ] {params : List (κ × ν)} {p : κ × ν} :
    p ∈ groupByKey params ↔ p ∈ params := by
  simp only [groupByKey, List.mem_flatMap, List.mem_eraseDups, List.mem_map, List.mem_filter,
    beq_iff_eq]
  constructor
  · rintro ⟨_, -, hmem, -⟩
    exact hmem
  · exact fun hmem => ⟨p.1, ⟨p, hmem, rfl⟩, hmem, rfl⟩

/-- The keys keep the order in which they first appear. -/
theorem keys_groupByKey (params : List Param) : keys (groupByKey params) = keys params := by
  induction params using byKeyInduction with
  | nil => rfl
  | cons p rest ih =>
    have hsame : withoutKey p.1 (ofKey p.1 rest) = [] :=
      List.filter_eq_nil_iff.2 fun q hq => by simp [(mem_ofKey.1 hq).2]
    have hothers : withoutKey p.1 (groupByKey (withoutKey p.1 rest)) =
        groupByKey (withoutKey p.1 rest) :=
      withoutKey_of_forall fun q hq => (mem_withoutKey.1 (mem_groupByKey.1 hq)).2
    rw [groupByKey_cons, List.cons_append, keys_cons, keys_cons, withoutKey_append, hsame, hothers,
      List.nil_append, ih]

/-! ## Grouping again -/

/-- The keys of two lists are those of the first and then the new ones of the second. -/
theorem keys_append (params more : List Param) :
    keys (params ++ more) = keys params ++ keys (more.filter fun p => !(keys params).contains p.1) := by
  have hmem : ∀ key, (params.map (·.1)).contains key = (keys params).contains key := by
    intro key
    rw [Bool.eq_iff_iff, List.contains_iff_mem, List.contains_iff_mem, keys, List.mem_eraseDups]
  rw [keys, List.map_append, List.eraseDups_append, List.removeAll, List.filter_map]
  simp only [List.elem_eq_contains, hmem]
  rfl

/-- Lists with the same keys in order and the same parameters for each key are grouped in
the same way. -/
theorem groupByKey_congr {params others : List Param} (hkeys : keys params = keys others)
    (hparams : ∀ key, ofKey key params = ofKey key others) :
    groupByKey params = groupByKey others := by
  change (keys params).flatMap (ofKey · params) = (keys others).flatMap (ofKey · others)
  rw [hkeys, funext hparams]

/-- Before more parameters, a grouped list may be taken for the list that it was made of. -/
theorem groupByKey_append_groupByKey (params more : List Param) :
    groupByKey (groupByKey params ++ more) = groupByKey (params ++ more) := by
  refine groupByKey_congr ?_ fun key => ?_
  · rw [keys_append, keys_append, keys_groupByKey]
  · rw [ofKey_append, ofKey_append, ofKey_groupByKey]

/-- Grouping again changes nothing. -/
theorem groupByKey_groupByKey (params : List Param) :
    groupByKey (groupByKey params) = groupByKey params := by
  have happend := groupByKey_append_groupByKey params []
  rwa [List.append_nil, List.append_nil] at happend

/-! ## Lists that are grouped -/

/-- No key comes again after another one. -/
def Together (params : List Param) : Prop :=
  ∀ p q r : Param, [p, q, r].Sublist params → p.1 = r.1 → q.1 = p.1

theorem Together.sublist {params fewer : List Param} (h : Together params)
    (hfewer : fewer.Sublist params) : Together fewer :=
  fun p q r hsub => h p q r (hsub.trans hfewer)

/-- What is grouped stands together. -/
theorem together_groupByKey (params : List Param) : Together (groupByKey params) := by
  induction params using byKeyInduction with
  | nil => intro p q r hsub; cases hsub
  | cons first rest ih =>
    rw [groupByKey_cons]
    intro p q r hsub hends
    obtain ⟨front, back, hsplit, hfront, hback⟩ := List.sublist_append_iff.1 hsub
    have hfirst : ∀ x ∈ front, x.1 = first.1 := fun x hx =>
      (List.mem_cons.1 (hfront.mem hx)).elim (congrArg _) fun hmem => (mem_ofKey.1 hmem).2
    have hothers : ∀ x ∈ back, x.1 ≠ first.1 := fun x hx =>
      (mem_withoutKey.1 (mem_groupByKey.1 (hback.mem hx))).2
    -- where the three are split, the two outer ones lie on one side
    match front with
    | [] => exact ih p q r (hsplit ▸ hback) hends
    | [a] =>
      simp only [List.cons_append, List.nil_append, List.cons.injEq] at hsplit
      obtain ⟨rfl, rfl⟩ := hsplit
      exact absurd (hends.symm.trans (hfirst p (by simp))) (hothers r (by simp))
    | [a, b] =>
      simp only [List.cons_append, List.nil_append, List.cons.injEq] at hsplit
      obtain ⟨rfl, rfl, rfl⟩ := hsplit
      exact absurd (hends.symm.trans (hfirst p (by simp))) (hothers r (by simp))
    | a :: b :: c :: more =>
      simp only [List.cons_append, List.cons.injEq] at hsplit
      obtain ⟨rfl, rfl, -⟩ := hsplit
      rw [hfirst p (by simp), hfirst q (by simp)]

/-- After a parameter of a key, parameters that stand together have all others of the key
first. -/
theorem Together.ofKey_append_withoutKey {p : Param} {rest : List Param}
    (h : Together (p :: rest)) : ofKey p.1 rest ++ withoutKey p.1 rest = rest := by
  induction rest with
  | nil => rfl
  | cons q rest ih =>
    by_cases hkey : q.1 = p.1
    · have hrest : Together (p :: rest) := h.sublist (.cons_cons p (.cons q (.refl rest)))
      have hself : ofKey p.1 (q :: rest) = q :: ofKey p.1 rest := hkey ▸ ofKey_cons_self q rest
      have hwithout : withoutKey p.1 (q :: rest) = withoutKey p.1 rest :=
        List.filter_cons_of_neg (by simpa using hkey)
      rw [hself, hwithout, List.cons_append, ih hrest]
    · have hnone : ∀ r ∈ q :: rest, r.1 ≠ p.1 := by
        rintro r hmem hr
        obtain rfl | hmem := List.mem_cons.1 hmem
        · exact hkey hr
        · have hsub : [p, q, r].Sublist (p :: q :: rest) :=
            .cons_cons p (.cons_cons q (List.singleton_sublist.2 hmem))
          exact hkey (h p q r hsub hr.symm)
      rw [ofKey_eq_nil hnone, withoutKey_of_forall hnone, List.nil_append]

/-- Grouping leaves a list as it is just where no key comes again after another one. -/
theorem groupByKey_eq_self_iff {params : List Param} :
    groupByKey params = params ↔ Together params := by
  refine ⟨fun hself => hself ▸ together_groupByKey params, fun h => ?_⟩
  induction params using byKeyInduction with
  | nil => rfl
  | cons p rest ih =>
    have hrest : Together (withoutKey p.1 rest) := h.sublist (.cons p List.filter_sublist)
    rw [groupByKey_cons, ih hrest, List.cons_append, h.ofKey_append_withoutKey]

end TezosNode.Url
