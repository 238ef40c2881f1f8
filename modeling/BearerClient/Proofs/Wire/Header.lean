import BearerClient.Wire.Header

/-!
# Looking up headers

What a name has after a value was inserted: the name itself that value alone,
every other name what it had before.
-/

namespace BearerClient.Headers

theorem lookup_cons (first other : String) (values : List HeaderValue)
    (rest : List (String × List HeaderValue)) :
    ((first, values) :: rest).lookup other =
      if other = first then some values else rest.lookup other := by
  rw [List.lookup_cons]
  by_cases hother : other = first
  · simp [hother]
  · have hne : (other == first) = false := by simpa using hother
    rw [hne, if_neg hother]

theorem lookup_alter (name other : String)
    (change : List HeaderValue → List HeaderValue)
    (fields : List (String × List HeaderValue)) :
    (alter name change fields).lookup other =
      if other = name then some (change ((fields.lookup name).getD []))
      else fields.lookup other := by
  induction fields with
  | nil => simp [alter, lookup_cons]
  | cons field rest ih =>
      obtain ⟨first, values⟩ := field
      by_cases hfirst : first = name
      · subst hfirst
        by_cases hother : other = first <;>
          simp [alter, lookup_cons, hother]
      · have hname : ¬name = first := fun h => hfirst h.symm
        by_cases hother : other = name
        · subst hother
          simp [alter, lookup_cons, hfirst, hname, ih]
        · simp [alter, lookup_cons, hfirst, hother, ih]

theorem contains_eq_lookup (headers : Headers) (name : String) :
    headers.contains name = (headers.fields.lookup name).isSome := by
  obtain ⟨fields⟩ := headers
  induction fields with
  | nil => rfl
  | cons field rest ih =>
      obtain ⟨first, values⟩ := field
      simp only [contains, List.any_cons, lookup_cons] at ih ⊢
      by_cases hname : name = first
      · simp [hname]
      · have hfirst : (first == name) = false := by
          simpa using fun h => hname h.symm
        rw [hfirst, if_neg hname, Bool.false_or, ih]

@[simp] theorem values_insert_self (headers : Headers) (name : String)
    (value : HeaderValue) : (headers.insert name value).values name = [value] := by
  simp [values, insert, lookup_alter]

@[simp] theorem contains_insert (headers : Headers) (name other : String)
    (value : HeaderValue) :
    (headers.insert name value).contains other =
      (decide (other = name) || headers.contains other) := by
  simp only [contains_eq_lookup, insert, lookup_alter]
  by_cases hother : other = name <;> simp [hother]

@[simp] theorem contains_empty (name : String) : empty.contains name = false := rfl

end BearerClient.Headers
