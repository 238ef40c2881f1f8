import BearerClient.Proofs.Json.Reading

/-!
# Passing over values

Whatever is read strictly can be passed over, up to the same place and however deep it is.

Lists and objects are passed over by one loop, which differs in their brackets and in what it
takes for an item.  It looks at the octet after an item, where who reads looks in front of one, so
it is compared with the loops that read where an item ends or the first one starts.
-/

namespace BearerClient.Json

open Scan

variable {α β σ : Type} {depth bound limit : Nat} {input mid rest : Bytes}

/-! ## Separators -/

theorem colon_eq_ok {result : Unit} (hread : colon input = .ok (result, rest)) :
    trimmed input = 0x3A :: rest := by
  obtain ⟨head, hhead, hread⟩ := peek_bind_eq_ok hread
  split at hread
  case h_2 =>
    obtain ⟨tail, htail⟩ := List.head?_eq_some_iff.1 hhead
    rw [htail] at hread ⊢
    cases hread
    rfl
  all_goals cases hread

theorem closeList_eq_ok {result : Unit} (hread : closeList input = .ok (result, rest)) :
    trimmed input = 0x5D :: rest := by
  obtain ⟨head, hhead, hread⟩ := peek_bind_eq_ok hread
  split at hread
  case h_2 =>
    obtain ⟨tail, htail⟩ := List.head?_eq_some_iff.1 hhead
    rw [htail] at hread ⊢
    cases hread
    rfl
  case h_3 =>
    obtain ⟨tail, htail⟩ := List.head?_eq_some_iff.1 hhead
    rw [htail, drop_bind] at hread
    obtain ⟨head, -, hread⟩ := peek_bind_eq_ok hread
    split at hread <;> cases hread
  all_goals cases hread

theorem closeObject_eq_ok {result : Unit} (hread : closeObject input = .ok (result, rest)) :
    trimmed input = 0x7D :: rest := by
  obtain ⟨head, hhead, hread⟩ := peek_bind_eq_ok hread
  split at hread
  case h_2 =>
    obtain ⟨tail, htail⟩ := List.head?_eq_some_iff.1 hhead
    rw [htail] at hread ⊢
    cases hread
    rfl
  all_goals cases hread

/-- How a list or an object is delimited, and what is wrong with it otherwise. -/
structure Brackets where
  close : UInt8
  /-- octets that an item may start with -/
  starts : UInt8 → Prop
  unclosed : Fault
  unexpected : Fault
  starts_ne_close : ∀ b, starts b → b ≠ close
  close_ne_comma : close ≠ 0x2C

namespace Brackets

def list : Brackets where
  close := 0x5D
  starts b := b ≠ 0x5D
  unclosed := .endInList
  unexpected := .expectedListCommaOrEnd
  starts_ne_close _ hb := hb
  close_ne_comma := by decide

def object : Brackets where
  close := 0x7D
  starts b := b = 0x22
  unclosed := .endInObject
  unexpected := .expectedObjectCommaOrEnd
  starts_ne_close b hb := by
    rw [hb]
    decide
  close_ne_comma := by decide

end Brackets

/-- Whether a list or an object goes on; all but the first item stand behind a comma. -/
inductive Another (brackets : Brackets) (input : Bytes) : (first more : Bool) → Bytes → Prop where
  | ends {first : Bool} {tail : Bytes} (hclose : trimmed input = brackets.close :: tail) :
      Another brackets input first false (brackets.close :: tail)
  | first {b : UInt8} {tail : Bytes} (hstart : trimmed input = b :: tail)
      (hb : brackets.starts b) : Another brackets input true true (b :: tail)
  | later {b : UInt8} {after tail : Bytes} (hcomma : trimmed input = 0x2C :: after)
      (hstart : trimmed after = b :: tail) (hb : brackets.starts b) :
      Another brackets input false true (b :: tail)

theorem anotherItem_eq_ok {first more : Bool} (hread : anotherItem first input = .ok (more, mid)) :
    Another .list input first more mid := by
  obtain ⟨head, hhead, hread⟩ := peek_bind_eq_ok hread
  split at hread
  case h_1 => cases hread
  case h_2 =>
    obtain ⟨tail, htail⟩ := List.head?_eq_some_iff.1 hhead
    rw [htail] at hread
    cases hread
    exact .ends htail
  case h_3 b hclose =>
    obtain ⟨tail, htail⟩ := List.head?_eq_some_iff.1 hhead
    rw [htail] at hread
    cases first with
    | true =>
        cases hread
        exact .first htail hclose
    | false =>
        rw [if_neg (by decide)] at hread
        split at hread
        case isFalse => cases hread
        case isTrue hcomma =>
          subst hcomma
          rw [drop_bind] at hread
          obtain ⟨head, hhead, hread⟩ := peek_bind_eq_ok hread
          split at hread
          case h_3 c hclose =>
            obtain ⟨later, hlater⟩ := List.head?_eq_some_iff.1 hhead
            rw [hlater] at hread
            cases hread
            exact .later htail hlater hclose
          all_goals cases hread

theorem anotherMember_eq_ok {first more : Bool}
    (hread : anotherMember first input = .ok (more, mid)) :
    Another .object input first more mid := by
  obtain ⟨head, hhead, hread⟩ := peek_bind_eq_ok hread
  split at hread
  case h_1 => cases hread
  case h_2 =>
    obtain ⟨tail, htail⟩ := List.head?_eq_some_iff.1 hhead
    rw [htail] at hread
    cases hread
    exact .ends htail
  case h_3 b hclose =>
    obtain ⟨tail, htail⟩ := List.head?_eq_some_iff.1 hhead
    rw [htail] at hread
    cases first with
    | true =>
        rw [if_pos rfl] at hread
        split at hread
        case isTrue hquote =>
          cases hread
          exact .first htail hquote
        case isFalse => cases hread
    | false =>
        rw [if_neg (by decide)] at hread
        split at hread
        case isFalse => cases hread
        case isTrue hcomma =>
          subst hcomma
          rw [drop_bind] at hread
          obtain ⟨head, hhead, hread⟩ := peek_bind_eq_ok hread
          split at hread
          case h_2 =>
            obtain ⟨later, hlater⟩ := List.head?_eq_some_iff.1 hhead
            rw [hlater] at hread
            cases hread
            exact .later htail hlater rfl
          all_goals cases hread

theorem Another.length_le {brackets : Brackets} {first more : Bool}
    (hanother : Another brackets input first more mid) : mid.length ≤ input.length := by
  have hle := length_trimmed_le input
  cases hanother with
  | ends hclose => rwa [hclose] at hle
  | first hstart hb => rwa [hstart] at hle
  | later hcomma hstart hb =>
      rename_i b after tail
      have hafter := length_trimmed_le after
      rw [hcomma, List.length_cons] at hle
      rw [hstart] at hafter
      omega

/-- The octet that ended a list is still there. -/
theorem anotherItem_ended {first : Bool} (hmore : anotherItem first input = .ok (false, mid)) :
    mid = trimmed input := by
  cases anotherItem_eq_ok hmore with
  | ends hclose => exact hclose.symm

theorem closeList_ended {first : Bool} (hmore : anotherItem first input = .ok (false, mid)) :
    closeList mid = closeList input := by
  rw [anotherItem_ended hmore]
  exact peek_bind_trimmed _ _

theorem closeObject_ended {first : Bool} (hmore : anotherMember first input = .ok (false, mid)) :
    closeObject mid = closeObject input := by
  cases anotherMember_eq_ok hmore with
  | ends hclose =>
      rw [← hclose]
      exact peek_bind_trimmed _ _

theorem length_colon_lt {result : Unit} (hread : colon input = .ok (result, rest)) :
    rest.length < input.length := by
  have hle := length_trimmed_le input
  rw [colon_eq_ok hread] at hle
  exact hle

/-! ## Loops -/

variable {brackets : Brackets} {item item' : Reader Unit}

/-- Items up to a closing octet, passed over; whether another follows is seen behind each. -/
def skipAll (brackets : Brackets) (item : Reader Unit) : (bound : Nat) → Reader Unit
  | 0 => fail brackets.unclosed
  | bound + 1 => do
    item
    match ← peek with
    | none => fail brackets.unclosed
    | some b =>
      if b = brackets.close then drop
      else if b = 0x2C then
        drop
        skipAll brackets item bound
      else fail brackets.unexpected

/-- What is left to be passed over, in front of the first item or behind any item. -/
def skipFrom (brackets : Brackets) (item : Reader Unit) (bound : Nat) (first : Bool) :
    Reader Unit := do
  match ← peek with
  | none => fail brackets.unclosed
  | some b =>
    if b = brackets.close then drop
    else if first then skipAll brackets item bound
    else if b = 0x2C then
      drop
      skipAll brackets item bound
    else fail brackets.unexpected

theorem skipAll_succ (brackets : Brackets) (item : Reader Unit) (bound : Nat) :
    skipAll brackets item (bound + 1) =
      item >>= fun _ => skipFrom brackets item bound false := rfl

theorem skipItemsWithin_eq (item : Reader Unit) (bound : Nat) :
    skipItemsWithin item bound = skipAll .list item bound := by
  induction bound with
  | zero => rfl
  | succ bound ih =>
      rw [skipItemsWithin, skipAll, ih]
      congr
      funext _
      congr
      funext head
      split
      case h_1 => rfl
      case h_2 => rfl
      case h_3 => rfl
      case h_4 b hclose hcomma =>
        change _ = if b = 0x5D then _ else _
        rw [if_neg hclose, if_neg hcomma]
        rfl

theorem skipMembersWithin_eq (value : Reader Unit) (bound : Nat) :
    skipMembersWithin value bound = skipAll .object (skipMember value) bound := by
  induction bound with
  | zero => rfl
  | succ bound ih =>
      rw [skipMembersWithin, skipAll, ih]
      congr
      funext _
      congr
      funext head
      split
      case h_1 => rfl
      case h_2 => rfl
      case h_3 => rfl
      case h_4 b hclose hcomma =>
        change _ = if b = 0x7D then _ else _
        rw [if_neg hclose, if_neg hcomma]
        rfl

theorem skipFrom_trimmed (brackets : Brackets) (item : Reader Unit) (bound : Nat) (first : Bool)
    (input : Bytes) :
    skipFrom brackets item bound first (trimmed input) =
      skipFrom brackets item bound first input :=
  peek_bind_trimmed _ _

theorem skipFrom_ends {first : Bool} (hclose : trimmed input = brackets.close :: rest) :
    skipFrom brackets item bound first input = .ok ((), rest) := by
  rw [skipFrom, peek_bind, hclose]
  change (if brackets.close = brackets.close then drop else _) _ = _
  rw [if_pos rfl]
  rfl

/-- Where the next item starts for its reader, or in white space before that. -/
theorem skipFrom_another (hitem : ∀ input, item (trimmed input) = item input) {first : Bool}
    (hanother : Another brackets input first true mid) :
    skipFrom brackets item (bound + 1) first input =
      (item >>= fun _ => skipFrom brackets item bound false) mid := by
  cases hanother with
  | first hstart hb =>
      rw [skipFrom, peek_bind, hstart]
      change (if _ = brackets.close then drop else _) _ = _
      rw [if_neg (brackets.starts_ne_close _ hb), if_pos rfl, skipAll_succ]
  | @later b after tail hcomma hstart hb =>
      rw [skipFrom, peek_bind, hcomma]
      change (if 0x2C = brackets.close then drop else _) _ = _
      rw [if_neg (Ne.symm brackets.close_ne_comma), if_neg (by decide), if_pos rfl, drop_bind,
        skipAll_succ, ← hstart]
      change (item after).bind _ = (item (trimmed after)).bind _
      rw [hitem]

/-- One item that was read is one item passed over. -/
theorem skipFrom_item {read : Reader α} {head : α}
    (htrimmed : ∀ input, item (trimmed input) = item input) {first : Bool}
    (hanother : Another brackets input first true mid) (hitem : Passes read item mid)
    (hread : read mid = .ok (head, rest)) :
    rest.length < input.length ∧
      skipFrom brackets item (bound + 1) first input = skipFrom brackets item bound false rest := by
  refine ⟨Nat.lt_of_lt_of_le (hitem.length_lt _ _ hread) hanother.length_le, ?_⟩
  rw [skipFrom_another htrimmed hanother, bind_of_ok (hitem.skips _ _ hread)]

/-- By induction on the bound of the first loop; that of the second has to last as long as there
are octets, since every item takes one. -/
theorem skipAll_passes (hitem : ∀ input, input.length < depth → Passes item item' input)
    (hdepth : input.length < depth) (hlimit : input.length ≤ limit)
    (hskip : skipAll brackets item bound input = .ok ((), rest)) :
    rest.length < input.length ∧ skipAll brackets item' limit input = .ok ((), rest) := by
  induction bound generalizing input limit with
  | zero => cases hskip
  | succ bound ih =>
      obtain ⟨done, after, hfirst, hskip⟩ := bind_eq_ok.1 hskip
      have hpasses := hitem input hdepth
      have hafter := hpasses.length_lt _ _ hfirst
      have hle := length_trimmed_le after
      obtain ⟨limit, rfl⟩ : ∃ smaller, limit = smaller + 1 := ⟨limit - 1, by omega⟩
      rw [skipAll_succ, bind_of_ok (hpasses.skips _ _ hfirst)]
      obtain ⟨head, hhead, hskip⟩ := peek_bind_eq_ok hskip
      split at hskip
      case h_1 => cases hskip
      case h_2 b =>
        obtain ⟨tail, htail⟩ := List.head?_eq_some_iff.1 hhead
        rw [htail] at hskip hle
        split at hskip
        case isTrue hclose =>
          cases hskip
          exact ⟨Nat.lt_trans hle hafter, skipFrom_ends (by rw [htail, hclose, List.tail_cons])⟩
        case isFalse hclose =>
          split at hskip
          case isFalse => cases hskip
          case isTrue hcomma =>
            subst hcomma
            rw [drop_bind] at hskip
            rw [List.length_cons] at hle
            have hbelow : tail.length ≤ limit := by omega
            obtain ⟨hlength, hskipped⟩ := ih (by omega) hbelow hskip
            rw [skipFrom, peek_bind, htail]
            change _ ∧ (if 0x2C = brackets.close then drop else _) _ = _
            rw [if_neg hclose, if_neg (by decide), if_pos rfl]
            exact ⟨by omega, hskipped⟩

theorem skipFrom_passes (hitem : ∀ input, input.length < depth → Passes item item' input)
    (hdepth : input.length < depth) (hlimit : input.length ≤ limit)
    (hskip : skipFrom brackets item bound true input = .ok ((), rest)) :
    rest.length < input.length ∧ skipFrom brackets item' limit true input = .ok ((), rest) := by
  have hle := length_trimmed_le input
  obtain ⟨head, hhead, hskip⟩ := peek_bind_eq_ok hskip
  split at hskip
  case h_1 => cases hskip
  case h_2 b =>
    split at hskip
    case isTrue hclose =>
      obtain ⟨tail, htail⟩ := List.head?_eq_some_iff.1 hhead
      rw [htail] at hskip hle
      cases hskip
      exact ⟨hle, skipFrom_ends (by rw [htail, hclose, List.tail_cons])⟩
    case isFalse hclose =>
      rw [if_pos rfl] at hskip
      obtain ⟨hlength, hskipped⟩ := skipAll_passes hitem (Nat.lt_of_le_of_lt hle hdepth)
        (Nat.le_trans hle hlimit) hskip
      rw [skipFrom, peek_bind, hhead]
      change _ ∧ (if b = brackets.close then drop else _) _ = _
      rw [if_neg hclose, if_pos rfl]
      exact ⟨Nat.lt_of_lt_of_le hlength hle, hskipped⟩

/-! ## Lists -/

theorem skipWithin_trimmed (depth : Nat) (input : Bytes) :
    skipWithin depth (trimmed input) = skipWithin depth input := by
  cases depth with
  | zero => rfl
  | succ depth => exact peek_bind_trimmed _ _

/-- At the end of a list there is nothing more to pass over. -/
theorem skipFrom_closeList {first : Bool} (hclose : closeList input = .ok ((), rest)) :
    rest.length < input.length ∧ skipFrom .list item bound first input = .ok ((), rest) := by
  have htrimmed := closeList_eq_ok hclose
  have hle := length_trimmed_le input
  rw [htrimmed] at hle
  exact ⟨hle, skipFrom_ends htrimmed⟩

theorem readItemsWithin_skips {read : Reader α} {items : List α} {first : Bool}
    (hitem : ∀ input, input.length < depth → Passes read (skipWithin depth) input)
    (hdepth : input.length < depth) (hlimit : input.length ≤ limit)
    (hread : readItemsWithin read bound first input = .ok (items, mid))
    (hclose : closeList mid = .ok ((), rest)) :
    rest.length < input.length ∧
      skipFrom .list (skipWithin depth) limit first input = .ok ((), rest) := by
  induction bound generalizing first input items limit with
  | zero => cases hread
  | succ bound ih =>
      obtain ⟨more, start, hmore, hread⟩ := bind_eq_ok.1 hread
      have hanother := anotherItem_eq_ok hmore
      cases more with
      | false =>
          cases hread
          exact skipFrom_closeList (by rw [← closeList_ended hmore, hclose])
      | true =>
          obtain ⟨head, after, hhead, hread⟩ := bind_eq_ok.1 hread
          obtain ⟨tail, last, htail, hdone⟩ := bind_eq_ok.1 hread
          cases hdone
          have hstart : start.length < depth := Nat.lt_of_le_of_lt hanother.length_le hdepth
          have hle := hanother.length_le
          have hlt := (hitem start hstart).length_lt _ _ hhead
          obtain ⟨limit, rfl⟩ : ∃ smaller, limit = smaller + 1 := ⟨limit - 1, by omega⟩
          obtain ⟨hafter, hskip⟩ :=
            skipFrom_item (skipWithin_trimmed depth) hanother (hitem start hstart) hhead
          rw [hskip]
          have hbelow : after.length ≤ limit := by omega
          obtain ⟨hlength, hskipped⟩ := ih (by omega) hbelow htail
          exact ⟨Nat.lt_trans hlength hafter, hskipped⟩

/-! ## Objects -/

theorem skipMember_trimmed (value : Reader Unit) (input : Bytes) :
    skipMember value (trimmed input) = skipMember value input :=
  peek_bind_trimmed _ _

theorem skipFrom_closeObject {first : Bool} (hclose : closeObject input = .ok ((), rest)) :
    rest.length < input.length ∧ skipFrom .object item bound first input = .ok ((), rest) := by
  have htrimmed := closeObject_eq_ok hclose
  have hle := length_trimmed_le input
  rw [htrimmed] at hle
  exact ⟨hle, skipFrom_ends htrimmed⟩

theorem length_memberKey_lt {key : String} (hread : memberKey input = .ok (key, rest)) :
    rest.length < input.length := by
  have hlt : rest.length < input.tail.length := length_stringBody_lt hread
  rw [List.length_tail] at hlt
  omega

/-- A key and what follows it, at the quote where an object goes on. -/
theorem skipMember_of_memberKey {value : Reader Unit} {member : Reader α} {first : Bool}
    {key : String} {afterKey : Bytes} (hanother : Another .object input first true mid)
    (hkey : memberKey mid = .ok (key, afterKey))
    (hmember : Passes member (do colon; value) afterKey) :
    Passes (do let _ ← memberKey; member) (skipMember value) mid := by
  refine .of_ok fun a rest hread => ?_
  rw [bind_of_ok hkey] at hread
  refine ⟨Nat.lt_trans (hmember.length_lt _ _ hread) (length_memberKey_lt hkey), ?_⟩
  obtain ⟨tail, rfl⟩ : ∃ tail, mid = 0x22 :: tail := by
    cases hanother with
    | first hstart hb => exact ⟨_, by rw [hb]⟩
    | later hcomma hstart hb => exact ⟨_, by rw [hb]⟩
  rw [memberKey, drop_bind] at hkey
  have hskip : skipStringBody tail = .ok ((), afterKey) := skipStringBody_of_stringBody hkey
  change ((skipStringBody >>= fun _ => (do colon; value)) : Reader Unit) tail = _
  rw [bind_of_ok hskip]
  exact hmember.skips _ _ hread

theorem readMembersWithin_skips {member : String → σ → Reader σ} {start state : σ} {first : Bool}
    (hmember : ∀ key state input, input.length < depth →
      Passes (member key state) (do colon; skipWithin depth) input)
    (hdepth : input.length < depth) (hlimit : input.length ≤ limit)
    (hread : readMembersWithin member bound first start input = .ok (state, mid))
    (hclose : closeObject mid = .ok ((), rest)) :
    rest.length < input.length ∧
      skipFrom .object (skipMember (skipWithin depth)) limit first input = .ok ((), rest) := by
  induction bound generalizing first input start limit with
  | zero => cases hread
  | succ bound ih =>
      obtain ⟨more, next, hmore, hread⟩ := bind_eq_ok.1 hread
      have hanother := anotherMember_eq_ok hmore
      cases more with
      | false =>
          cases hread
          exact skipFrom_closeObject (by rw [← closeObject_ended hmore, hclose])
      | true =>
          obtain ⟨key, afterKey, hkey, hread⟩ := bind_eq_ok.1 hread
          obtain ⟨taken, after, htaken, hread⟩ := bind_eq_ok.1 hread
          have hle := hanother.length_le
          have hlt := length_memberKey_lt hkey
          obtain ⟨limit, rfl⟩ : ∃ smaller, limit = smaller + 1 := ⟨limit - 1, by omega⟩
          have hpasses := skipMember_of_memberKey hanother hkey
            (hmember key start afterKey (by omega))
          have hmemberRead : (do let _ ← memberKey; member key start : Reader σ) next =
              .ok (taken, after) := by
            rw [bind_of_ok hkey, htaken]
          obtain ⟨hafter, hskip⟩ :=
            skipFrom_item (skipMember_trimmed _) hanother hpasses hmemberRead
          rw [hskip]
          have hbelow : after.length ≤ limit := by omega
          obtain ⟨hlength, hskipped⟩ := ih (by omega) hbelow hread
          exact ⟨Nat.lt_trans hlength hafter, hskipped⟩

/-! ## Values -/

/-- Behind its colon a member passes if its value does. -/
theorem Passes.afterColon {value : Reader α} {skip : Reader Unit}
    (hvalue : ∀ rest, rest.length < input.length → Passes value skip rest) :
    Passes (do colon; value) (do colon; skip) input := by
  refine .of_ok fun a rest hread => ?_
  obtain ⟨done, mid, hcolon, hread⟩ := bind_eq_ok.1 hread
  have hlt := length_colon_lt hcolon
  have hpasses := hvalue mid hlt
  rw [bind_of_ok hcolon]
  exact ⟨Nat.lt_trans (hpasses.length_lt _ _ hread) hlt, hpasses.skips _ _ hread⟩

variable {tail : Bytes}

theorem skipWithin_list (htail : trimmed input = 0x5B :: tail) :
    skipWithin (depth + 1) input = skipFrom .list (skipWithin depth) depth true tail := by
  rw [skipWithin, peek_bind, htail]
  simp only [List.head?_cons, drop_bind]
  rw [skipFrom]
  refine congrFun (congrArg _ (funext fun head => ?_)) tail
  split
  case h_1 => rfl
  case h_2 => rfl
  case h_3 b hclose =>
    change _ = if b = 0x5D then _ else _
    rw [if_neg hclose, if_pos rfl, skipItemsWithin_eq]

theorem skipWithin_object (htail : trimmed input = 0x7B :: tail) :
    skipWithin (depth + 1) input =
      skipFrom .object (skipMember (skipWithin depth)) depth true tail := by
  rw [skipWithin, peek_bind, htail]
  simp only [List.head?_cons, drop_bind]
  rw [skipFrom]
  refine congrFun (congrArg _ (funext fun head => ?_)) tail
  split
  case h_1 => rfl
  case h_2 => rfl
  case h_3 b hclose =>
    change _ = if b = 0x7D then _ else _
    rw [if_neg hclose, if_pos rfl, skipMembersWithin_eq]

theorem skipWithin_scalar {b : UInt8} (htail : trimmed input = b :: tail) (hlist : b ≠ 0x5B)
    (hobject : b ≠ 0x7B) : skipWithin (depth + 1) input = skipScalar b (b :: tail) := by
  rw [skipWithin, peek_bind, htail]
  simp

theorem readItems_eq_ok {item : Reader α} {items : List α}
    (hread : readItems item input = .ok (items, rest)) :
    ∃ mid, readItemsWithin item (input.length + 1) true input = .ok (items, mid) ∧
      closeList mid = .ok ((), rest) := by
  obtain ⟨count, start, hcount, hread⟩ := bind_eq_ok.1 hread
  cases hcount
  obtain ⟨held, mid, hitems, hread⟩ := bind_eq_ok.1 hread
  obtain ⟨done, after, hclose, hdone⟩ := bind_eq_ok.1 hread
  cases hdone
  exact ⟨mid, hitems, hclose⟩

/-- A list that is read to its end is passed over to its end. -/
theorem readItems_skips {item : Reader α} {items : List α} (htail : trimmed input = 0x5B :: tail)
    (hlimit : input.length < limit)
    (hitem : ∀ limit input, input.length < limit → Passes item (skipWithin limit) input)
    (hread : readItems item tail = .ok (items, rest)) :
    rest.length < input.length ∧ skipWithin limit input = .ok ((), rest) := by
  have hle := length_trimmed_le input
  rw [htail, List.length_cons] at hle
  obtain ⟨limit, rfl⟩ : ∃ smaller, limit = smaller + 1 := ⟨limit - 1, by omega⟩
  obtain ⟨mid, hitems, hclose⟩ := readItems_eq_ok hread
  obtain ⟨hlength, hskip⟩ := readItemsWithin_skips (hitem limit) (by omega)
    (show tail.length ≤ limit by omega) hitems hclose
  rw [skipWithin_list htail]
  exact ⟨by omega, hskip⟩

/-- An object that is read to its end is passed over to its end. -/
theorem readMembers_skips {member : String → σ → Reader σ} {start state : σ}
    (htail : trimmed input = 0x7B :: tail) (hlimit : input.length < limit)
    (hmember : ∀ limit key state input, input.length < limit →
      Passes (member key state) (do colon; skipWithin limit) input)
    (hread : readMembers member start tail = .ok (state, mid))
    (hclose : closeObject mid = .ok ((), rest)) :
    rest.length < input.length ∧ skipWithin limit input = .ok ((), rest) := by
  have hle := length_trimmed_le input
  rw [htail, List.length_cons] at hle
  obtain ⟨limit, rfl⟩ : ∃ smaller, limit = smaller + 1 := ⟨limit - 1, by omega⟩
  obtain ⟨hlength, hskip⟩ := readMembersWithin_skips (hmember limit) (by omega)
    (show tail.length ≤ limit by omega) hread hclose
  rw [skipWithin_object htail]
  exact ⟨by omega, hskip⟩

theorem readScalar_skips {b : UInt8} {value : Value} (htail : trimmed input = b :: tail)
    (hlist : b ≠ 0x5B) (hobject : b ≠ 0x7B) (hlimit : input.length < limit)
    (hread : readScalar b (b :: tail) = .ok (value, rest)) :
    rest.length < input.length ∧ skipWithin limit input = .ok ((), rest) := by
  have hle := length_trimmed_le input
  rw [htail] at hle
  obtain ⟨limit, rfl⟩ : ∃ smaller, limit = smaller + 1 := ⟨limit - 1, by omega⟩
  have hpasses := readScalar_passes b tail
  rw [skipWithin_scalar htail hlist hobject]
  exact ⟨Nat.lt_of_lt_of_le (hpasses.length_lt _ _ hread) hle, hpasses.skips _ _ hread⟩

theorem deeper_eq_ok {inner : Option (Reader α)} {item : Reader α}
    (hread : deeper inner input = .ok (item, rest)) : inner = some item ∧ rest = input := by
  cases inner with
  | none => cases hread
  | some reader =>
      cases hread
      exact ⟨rfl, rfl⟩

theorem readValueOver_passes {inner : Option (Reader Value)}
    (hinner : ∀ item, inner = some item →
      ∀ limit input, input.length < limit → Passes item (skipWithin limit) input) :
    ∀ limit input, input.length < limit →
      Passes (readValueOver inner) (skipWithin limit) input := by
  refine fun limit input hlimit => .of_ok fun value rest hread => ?_
  obtain ⟨head, hhead, hread⟩ := peek_bind_eq_ok hread
  split at hread
  case h_1 => cases hread
  case h_2 =>
    obtain ⟨tail, htail⟩ := List.head?_eq_some_iff.1 hhead
    rw [htail] at hread
    obtain ⟨item, start, hdeeper, hread⟩ := bind_eq_ok.1 hread
    obtain ⟨hsome, rfl⟩ := deeper_eq_ok hdeeper
    rw [drop_bind] at hread
    obtain ⟨items, after, hitems, hdone⟩ := bind_eq_ok.1 hread
    cases hdone
    exact readItems_skips htail hlimit (hinner item hsome) hitems
  case h_3 =>
    obtain ⟨tail, htail⟩ := List.head?_eq_some_iff.1 hhead
    rw [htail] at hread
    obtain ⟨item, start, hdeeper, hread⟩ := bind_eq_ok.1 hread
    obtain ⟨hsome, rfl⟩ := deeper_eq_ok hdeeper
    rw [drop_bind] at hread
    obtain ⟨members, mid, hmembers, hread⟩ := bind_eq_ok.1 hread
    obtain ⟨done, after, hclose, hdone⟩ := bind_eq_ok.1 hread
    cases hdone
    refine readMembers_skips htail hlimit (fun limit key members input hbelow => ?_) hmembers hclose
    exact .afterColon fun rest hrest =>
      (hinner item hsome limit rest (Nat.lt_trans hrest hbelow)).map _
  case h_4 b hlist hobject =>
    obtain ⟨tail, htail⟩ := List.head?_eq_some_iff.1 hhead
    rw [htail] at hread
    exact readScalar_skips htail hlist hobject hlimit hread

/-- Any value that is read can be passed over, within any bound that its text leaves room for. -/
theorem readValue_passes (depth : Nat) :
    ∀ limit input, input.length < limit → Passes (readValue depth) (skipWithin limit) input := by
  induction depth with
  | zero => exact readValueOver_passes nofun
  | succ depth ih =>
      refine readValueOver_passes fun item hitem => ?_
      cases hitem
      exact ih

/-! ## Bounds -/

theorem skipMember_passes {value value' : Reader Unit}
    (hvalue : ∀ rest, rest.length < input.length → Passes value value' rest) :
    Passes (skipMember value) (skipMember value') input := by
  refine .of_ok fun done rest hskip => ?_
  have hle := length_trimmed_le input
  obtain ⟨head, hhead, hskip⟩ := peek_bind_eq_ok hskip
  split at hskip
  case h_2 =>
    obtain ⟨tail, htail⟩ := List.head?_eq_some_iff.1 hhead
    rw [htail, drop_bind] at hskip
    rw [htail, List.length_cons] at hle
    obtain ⟨done, afterKey, hkey, hskip⟩ := bind_eq_ok.1 hskip
    have hkeyLength := length_skipStringBody_lt hkey
    have hmember : Passes (do colon; value) (do colon; value') afterKey :=
      .afterColon fun rest hrest => hvalue rest (by omega)
    have hlength := hmember.length_lt _ _ hskip
    refine ⟨by omega, ?_⟩
    rw [skipMember, peek_bind, htail]
    change ((skipStringBody >>= fun _ => (do colon; value')) : Reader Unit) tail = _
    rw [bind_of_ok hkey]
    exact hmember.skips _ _ hskip
  all_goals cases hskip

/-- The bound does not matter as long as there is room for every octet. -/
theorem skipWithin_passes (depth : Nat) :
    ∀ limit input, input.length < limit → Passes (skipWithin depth) (skipWithin limit) input := by
  induction depth with
  | zero => exact fun limit input hlimit => .of_ok nofun
  | succ depth ih =>
      refine fun limit input hlimit => .of_ok fun done rest hskip => ?_
      have hle := length_trimmed_le input
      obtain ⟨limit, rfl⟩ : ∃ smaller, limit = smaller + 1 := ⟨limit - 1, by omega⟩
      cases htrimmed : trimmed input with
      | nil =>
          rw [skipWithin, peek_bind, htrimmed] at hskip
          cases hskip
      | cons b tail =>
          rw [htrimmed, List.length_cons] at hle
          have hlimit' : tail.length ≤ limit := by omega
          by_cases hlist : b = 0x5B
          · subst hlist
            rw [skipWithin_list htrimmed] at hskip ⊢
            obtain ⟨hlength, hskipped⟩ := skipFrom_passes (ih limit) (by omega) hlimit' hskip
            exact ⟨by omega, hskipped⟩
          by_cases hobject : b = 0x7B
          · subst hobject
            rw [skipWithin_object htrimmed] at hskip ⊢
            have hmember : ∀ input, input.length < limit →
                Passes (skipMember (skipWithin depth)) (skipMember (skipWithin limit)) input :=
              fun input hinput => skipMember_passes fun rest hrest =>
                ih limit rest (Nat.lt_trans hrest hinput)
            obtain ⟨hlength, hskipped⟩ := skipFrom_passes hmember (by omega) hlimit' hskip
            exact ⟨by omega, hskipped⟩
          · rw [skipWithin_scalar htrimmed hlist hobject] at hskip ⊢
            have hlength := length_skipScalar_lt hskip
            rw [List.length_cons] at hlength
            exact ⟨by omega, hskip⟩

theorem skipValue_passes {limit : Nat} {input : Bytes} (hlimit : input.length < limit) :
    Passes skipValue (skipWithin limit) input :=
  have hpasses := skipWithin_passes (input.length + 1) limit input hlimit
  ⟨hpasses.length_lt, hpasses.skips⟩

end BearerClient.Json
