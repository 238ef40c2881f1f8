import Mathlib.Data.List.Induction
import BearerClient.Proofs.Wire.Header

/-!
# Collected headers

Headers that are appended one after another keep all that was given for a name, in order, and
the names in the order of their first appearance.  A value that is inserted later stands in
the place of its name, which is the last one if it is new.
-/

namespace BearerClient.Headers

/-! ## Names -/

/-- The names once another one has been given. -/
def withName (names : List String) (name : String) : List String :=
  if name ∈ names then names else names ++ [name]

theorem withName_cons_of_ne {first name : String} (hne : first ≠ name) (rest : List String) :
    withName (first :: rest) name = first :: withName rest name := by
  have hmem : name ∈ first :: rest ↔ name ∈ rest :=
    List.mem_cons.trans (or_iff_right hne.symm)
  unfold withName
  by_cases hrest : name ∈ rest
  · rw [if_pos hrest, if_pos (hmem.2 hrest)]
  · rw [if_neg hrest, if_neg (mt hmem.1 hrest), List.cons_append]

theorem names_alter (name : String) (change : List HeaderValue → List HeaderValue)
    (fields : List (String × List HeaderValue)) :
    (alter name change fields).map Prod.fst = withName (fields.map Prod.fst) name := by
  induction fields with
  | nil => rfl
  | cons field rest ih =>
      by_cases hfirst : field.1 = name
      · rw [alter, if_pos hfirst, withName, if_pos (by simp [hfirst])]
        simp [hfirst]
      · rw [alter, if_neg hfirst, List.map_cons, List.map_cons, ih,
          withName_cons_of_ne hfirst]

variable (headers : Headers) (name other : String) (value : HeaderValue)

theorem names_append : (headers.append name value).names = withName headers.names name :=
  names_alter ..

theorem names_insert : (headers.insert name value).names = withName headers.names name :=
  names_alter ..

theorem contains_iff_mem_names : headers.contains name = true ↔ name ∈ headers.names := by
  simp [contains, names]

theorem names_insertIfAbsent :
    (headers.insertIfAbsent name value).names = withName headers.names name := by
  unfold insertIfAbsent
  by_cases hgiven : headers.contains name = true
  · rw [if_pos hgiven, withName, if_pos ((contains_iff_mem_names ..).1 hgiven)]
  · rw [if_neg hgiven, names_insert]

@[simp] theorem contains_insertIfAbsent :
    (headers.insertIfAbsent name value).contains other =
      (decide (other = name) || headers.contains other) := by
  unfold insertIfAbsent
  cases hgiven : headers.contains name with
  | false => exact contains_insert headers name other value
  | true =>
      by_cases hother : other = name
      · simp [hother, hgiven]
      · simp [hother]

/-- The names once some more have been given, all of them different. -/
theorem foldl_withName (names : List String) {added : List String} (hadded : added.Nodup) :
    added.foldl withName names = names ++ added.filter (· ∉ names) := by
  induction added generalizing names with
  | nil => simp
  | cons name rest ih =>
      obtain ⟨hname, hrest⟩ := List.nodup_cons.1 hadded
      rw [List.foldl_cons, ih _ hrest]
      by_cases hgiven : name ∈ names
      · simp [withName, hgiven]
      · have hothers : rest.filter (· ∉ names ++ [name]) = rest.filter (· ∉ names) := by
          apply List.filter_congr
          intro other hother
          have hne : other ≠ name := fun heq => hname (heq ▸ hother)
          simp [hne]
        rw [withName, if_neg hgiven, hothers]
        simp [hgiven]

/-! ## Values -/

theorem values_append :
    (headers.append name value).values other =
      if other = name then headers.values name ++ [value] else headers.values other := by
  rw [values, append, lookup_alter]
  by_cases hother : other = name
  · simp [hother, values]
  · rw [if_neg hother, if_neg hother, values]

theorem values_insert :
    (headers.insert name value).values other =
      if other = name then [value] else headers.values other := by
  rw [values, insert, lookup_alter]
  by_cases hother : other = name
  · simp [hother]
  · rw [if_neg hother, if_neg hother, values]

theorem values_insertIfAbsent :
    (headers.insertIfAbsent name value).values other =
      if other = name ∧ headers.contains name = false then [value]
      else headers.values other := by
  unfold insertIfAbsent
  cases hgiven : headers.contains name with
  | true => simp
  | false => simp [values_insert]

theorem alter_alter (change change' : List HeaderValue → List HeaderValue)
    (fields : List (String × List HeaderValue)) :
    alter name change' (alter name change fields) = alter name (change' ∘ change) fields := by
  induction fields with
  | nil => simp [alter]
  | cons field rest ih =>
      by_cases hfirst : field.1 = name <;> simp [alter, hfirst, ih]

/-- The last value that is inserted stays. -/
@[simp] theorem insert_insert (value' : HeaderValue) :
    (headers.insert name value).insert name value' = headers.insert name value' :=
  congrArg Headers.mk (alter_alter ..)

/-! ## Headers that are appended -/

/-- Headers from names and values, in the order in which they are given. -/
def collect (given : List (String × HeaderValue)) : Headers :=
  given.foldl (fun headers field => headers.append field.1 field.2) {}

/-- What is given for a name. -/
def given (fields : List (String × HeaderValue)) (name : String) : List HeaderValue :=
  (fields.filter fun field => field.1 = name).map Prod.snd

variable (fields : List (String × HeaderValue))

theorem collect_concat (field : String × HeaderValue) :
    collect (fields ++ [field]) = (collect fields).append field.1 field.2 := by
  rw [collect, List.foldl_append]
  rfl

theorem values_collect : (collect fields).values name = given fields name := by
  induction fields using List.reverseRecOn with
  | nil => rfl
  | append_singleton rest field ih =>
      rw [collect_concat, values_append, given, List.filter_append, List.map_append]
      by_cases hname : name = field.1
      · subst hname
        simp [ih, given]
      · have hfirst : ¬field.1 = name := fun h => hname h.symm
        simp [ih, given, hname, hfirst]

theorem names_collect : (collect fields).names = (fields.map Prod.fst).eraseDups := by
  induction fields using List.reverseRecOn with
  | nil => rfl
  | append_singleton rest field ih =>
      rw [collect_concat, names_append, ih, List.map_append, List.eraseDups_append, withName]
      by_cases hgiven : field.1 ∈ rest.map Prod.fst
      · rw [if_pos (List.mem_eraseDups.2 hgiven)]
        simp [List.removeAll, hgiven]
      · rw [if_neg (mt List.mem_eraseDups.1 hgiven)]
        simp [List.removeAll, hgiven, List.eraseDups_cons]

theorem contains_collect :
    (collect fields).contains name = true ↔ given fields name ≠ [] := by
  rw [contains_iff_mem_names, names_collect]
  simp [given]

end BearerClient.Headers
