import BearerClient.Proofs.Url.Spaces
import BearerClient.Url.Origin
import Mathlib.Data.List.TakeWhile

/-!
# URLs that begin with another

A root and the same root with a slash and a path after it name one authority, whatever the
path is: either the authority has ended before the slash, or the slash ends it.  What is
dropped at the ends of a URL makes the difference.  Spaces and controls at the end of a root
do not count, and those before the slash of a path do; but no authority ends with one.
-/

namespace BearerClient

/-! ## Parts of texts -/

theorem Url.dropWhile_append_cons {α : Type} {p : α → Bool} {a : α} (ha : p a = false)
    (before after : List α) :
    (before ++ a :: after).dropWhile p = before.dropWhile p ++ a :: after := by
  rw [List.dropWhile_append, List.dropWhile_cons_of_neg (by simp [ha])]
  split
  case isTrue hempty => rw [List.isEmpty_iff.1 hempty, List.nil_append]
  case isFalse => rfl

theorem Url.takeWhile_append_cons {α : Type} {p : α → Bool} {a : α} (ha : p a = false)
    (before after : List α) :
    (before ++ a :: after).takeWhile p = before.takeWhile p := by
  rw [List.takeWhile_append, List.takeWhile_cons_of_neg (by simp [ha]), List.append_nil]
  split
  case isTrue hlength => exact ((List.takeWhile_prefix p).eq_of_length hlength).symm
  case isFalse => rfl

namespace Url

/-! ## The authority of a special scheme -/

variable {scheme : String} {text after : List Char} {url : Url}

theorem authorityOf_followed (hspecial : isSpecial scheme = true) (followed : Bool)
    (text : List Char) :
    authorityOf scheme followed text = authorityOf scheme false text := by
  cases followed with
  | false => rfl
  | true =>
      unfold authorityOf
      simp only [hspecial]
      split
      case isFalse => simp
      case isTrue hempty =>
        have hplace : ((splitUserinfo text).getD ([], text)).2 = [] := by
          simpa using hempty.2.2.1
        simp [hplace, splitHost]

theorem authorityOf_nil (hspecial : isSpecial scheme = true) (followed : Bool)
    (authority : Authority) : authorityOf scheme followed [] ≠ .ok authority := by
  simp [authorityOf, splitUserinfo, splitHost, hspecial]

section Outer

variable {d : Char} (hd : d.toNat ≤ 0x20)
include hd

theorem splitUserinfo_append (text : List Char) :
    ∃ userinfo place, (splitUserinfo (text ++ [d])).getD ([], text ++ [d]) =
      (userinfo, place ++ [d]) := by
  have hne : d ≠ '@' := Idna.ne_of_le hd (by decide)
  unfold splitUserinfo
  simp only [List.reverse_append, List.reverse_singleton, List.singleton_append]
  rw [List.dropWhile_cons_of_pos (by simpa using hne)]
  split
  · exact ⟨[], text, rfl⟩
  · rename_i before hbefore
    refine ⟨before.reverse, (text.reverse.takeWhile (· ≠ '@')).reverse, ?_⟩
    rw [List.takeWhile_cons_of_pos (by simpa using hne)]
    simp

theorem splitHost_append (inBrackets : Bool) (text : List Char) :
    splitHost inBrackets (text ++ [d]) = (text ++ [d], []) ∨
      ∃ host port, splitHost inBrackets (text ++ [d]) = (host, ':' :: (port ++ [d])) := by
  induction text generalizing inBrackets with
  | nil =>
      have hne : d ≠ ':' := Idna.ne_of_le hd (by decide)
      exact .inl (by simp [splitHost, hne])
  | cons c rest ih =>
      rw [List.cons_append, splitHost]
      split
      case isTrue hcolon => exact .inr ⟨[], rest, by rw [hcolon.1]⟩
      case isFalse =>
        rcases ih (if c = '[' then true else if c = ']' then false else inBrackets)
          with hhost | ⟨host, port, hport⟩
        · exact .inl (by simp only [hhost])
        · exact .inr ⟨c :: host, port, by simp only [hport]⟩

theorem portOf_append (port : List Char) :
    portOf scheme (':' :: (port ++ [d])) = .error .port := by
  have hdigits : (port ++ [d]).all Char.isDigit = false := by
    simp [Idna.isDigit_of_le hd]
  have hempty : (port ++ [d]).isEmpty = false := by simp
  rw [portOf, portNumber, hempty, hdigits]
  rfl

theorem Host.ofText_append (text : List Char) (host : Host) :
    Host.ofText (text ++ [d]) ≠ .ok host := by
  have hname := Host.asciiName_of_mem hd (show d ∈ text ++ [d] by simp)
  unfold Host.ofText
  split
  case h_1 result hbracketed =>
    -- An address in brackets ends with its bracket.
    unfold Host.bracketed? at hbracketed
    split at hbracketed
    · rename_i rest htext
      have hlast : rest.getLast? ≠ some ']' := by
        intro hlast
        have hsame := congrArg List.getLast? htext
        rw [List.getLast?_cons, hlast] at hsame
        have hbracket : d = ']' := by simpa using hsame
        exact Idna.ne_of_le hd (by decide) hbracket
      cases hbracketed
      rw [if_neg hlast]
      simp
    · cases hbracketed
  case h_2 =>
    rw [hname]
    intro hok
    cases hok

/-- No authority ends with a space or a control: neither a host nor a port does. -/
theorem authorityOf_append (hspecial : isSpecial scheme = true) (followed : Bool)
    (text : List Char) (authority : Authority) :
    authorityOf scheme followed (text ++ [d]) ≠ .ok authority := by
  obtain ⟨userinfo, place, hplace⟩ := splitUserinfo_append hd text
  intro hauthority
  unfold authorityOf at hauthority
  simp only [hplace, hspecial, if_true] at hauthority
  split at hauthority
  · cases hauthority
  · split at hauthority
    · cases hauthority
    · cases hhost : Host.ofText (splitHost false (place ++ [d])).1 with
      | error fault =>
          rw [hhost] at hauthority
          cases hauthority
      | ok host =>
          rw [hhost] at hauthority
          rcases splitHost_append hd false place with hsplit | ⟨name, port, hsplit⟩
          · rw [hsplit] at hhost
            exact Host.ofText_append hd place host hhost
          · rw [hsplit, portOf_append hd] at hauthority
            simp only [bind, Except.bind] at hauthority
            split at hauthority <;> cases hauthority

end Outer

/-! ## Reading as far as the authority -/

/-- As much of a text as an authority can take. -/
def authorityText (special : Bool) (text : List Char) : List Char :=
  text.takeWhile fun c => !endsAuthority special c

theorem afterSlashes_eq_ok (hurl : afterSlashes scheme text = .ok url) :
    ∃ followed authority,
      authorityOf scheme followed (authorityText (isSpecial scheme) text) = .ok authority ∧
      url.scheme = scheme ∧ url.authority = some authority := by
  unfold afterSlashes at hurl
  simp only at hurl
  cases hauthority : authorityOf scheme
      (!(text.dropWhile fun c => !endsAuthority (isSpecial scheme) c).isEmpty)
      (text.takeWhile fun c => !endsAuthority (isSpecial scheme) c) with
  | error fault =>
      rw [hauthority] at hurl
      cases hurl
  | ok authority =>
      rw [hauthority] at hurl
      cases hurl
      exact ⟨_, authority, hauthority, rfl, rfl⟩

theorem authorityOf_of_afterSlashes (hspecial : isSpecial scheme = true)
    (hurl : afterSlashes scheme text = .ok url) :
    ∃ authority, authorityOf scheme false (authorityText true text) = .ok authority ∧
      url.authority = some authority := by
  obtain ⟨followed, authority, hauthority, -, hurl⟩ := afterSlashes_eq_ok hurl
  rw [authorityOf_followed hspecial, hspecial] at hauthority
  exact ⟨authority, hauthority, hurl⟩

theorem fileUrl_scheme (hurl : fileUrl text = .ok url) : url.scheme = "file" := by
  unfold fileUrl at hurl
  simp only at hurl
  split at hurl
  · split at hurl
    · split at hurl
      · cases hurl
        rfl
      · cases hhost : fileHost _ with
        | error fault =>
            rw [hhost] at hurl
            cases hurl
        | ok host =>
            rw [hhost] at hurl
            cases hurl
            rfl
    · cases hurl
      rfl
  · cases hurl
    rfl

theorem otherUrl_scheme (hurl : otherUrl scheme text = .ok url) : url.scheme = scheme := by
  unfold otherUrl at hurl
  split at hurl
  · obtain ⟨_, _, _, hscheme, _⟩ := afterSlashes_eq_ok hurl
    exact hscheme
  · cases hurl
    rfl

theorem splitScheme_eq_some_iff :
    splitScheme text = some (scheme, after) ↔
      ∃ c name, c.isAlpha = true ∧ (∀ d ∈ c :: name, isSchemeChar d = true) ∧
        String.ofList ((c :: name).map Char.toLower) = scheme ∧
        text = c :: name ++ ':' :: after := by
  have hcolon : isSchemeChar ':' = false := by decide
  constructor
  · intro hsplit
    unfold splitScheme at hsplit
    split at hsplit
    · cases hsplit
    · rename_i c rest
      split at hsplit
      case isFalse => cases hsplit
      case isTrue halpha =>
        split at hsplit
        case h_2 => cases hsplit
        case h_1 hafter =>
          cases hsplit
          have hletter : isSchemeChar c = true := by
            simp [isSchemeChar, Char.isAlphanum, halpha]
          have hparts := List.takeWhile_append_dropWhile (p := isSchemeChar) (l := c :: rest)
          rw [hafter] at hparts
          rw [List.takeWhile_cons_of_pos hletter] at hparts ⊢
          exact ⟨c, rest.takeWhile isSchemeChar, halpha,
            List.forall_mem_cons.2 ⟨hletter, fun d hd => List.mem_takeWhile_imp hd⟩,
            rfl, hparts.symm⟩
  · rintro ⟨c, name, halpha, hname, rfl, rfl⟩
    have hdrop : (c :: name ++ ':' :: after).dropWhile isSchemeChar = ':' :: after := by
      rw [dropWhile_append_cons hcolon, List.dropWhile_eq_nil_iff.2 hname, List.nil_append]
    have htake : (c :: name ++ ':' :: after).takeWhile isSchemeChar = c :: name := by
      rw [takeWhile_append_cons hcolon, List.takeWhile_eq_self_iff.2 hname]
    rw [List.cons_append] at hdrop htake ⊢
    simp only [splitScheme, halpha, if_true, hdrop, htake]

theorem splitScheme_append (hsplit : splitScheme text = some (scheme, after))
    (more : List Char) : splitScheme (text ++ more) = some (scheme, after ++ more) := by
  obtain ⟨c, name, halpha, hname, hscheme, rfl⟩ := splitScheme_eq_some_iff.1 hsplit
  exact splitScheme_eq_some_iff.2
    ⟨c, name, halpha, hname, hscheme, by simp⟩

/-- The colon of a scheme stands before whatever follows without one. -/
theorem splitScheme_of_append {more : List Char} (hmore : ':' ∉ more)
    (hsplit : splitScheme (text ++ more) = some (scheme, after)) :
    ∃ within, after = within ++ more ∧ splitScheme text = some (scheme, within) := by
  obtain ⟨c, name, halpha, hname, hscheme, htext⟩ := splitScheme_eq_some_iff.1 hsplit
  obtain ⟨between, hname', hmore'⟩ | ⟨between, htext', hafter⟩ :=
    List.append_eq_append_iff.1 htext
  · rw [hmore'] at hmore
    exact absurd (by simp) hmore
  · cases between with
    | nil =>
        rw [List.nil_append] at hafter
        rw [← hafter] at hmore
        exact absurd List.mem_cons_self hmore
    | cons colon within =>
        obtain ⟨rfl, rfl⟩ := List.cons.inj hafter
        exact ⟨within, rfl, splitScheme_eq_some_iff.2
          ⟨c, name, halpha, hname, hscheme, htext'⟩⟩

/-- The schemes that an API can have. -/
def IsWeb (scheme : String) : Prop := scheme = "http" ∨ scheme = "https"

theorem IsWeb.isSpecial (hweb : IsWeb scheme) : isSpecial scheme = true := by
  rcases hweb with rfl | rfl <;> decide

theorem IsWeb.ofChars (hweb : IsWeb scheme)
    (hsplit : splitScheme (stripped text) = some (scheme, after)) :
    ofChars text = afterSlashes scheme (after.dropWhile (isSlash true)) := by
  have hfile : scheme ≠ "file" := by rcases hweb with rfl | rfl <;> decide
  simp only [Url.ofChars, hsplit, if_neg hfile, hweb.isSpecial, if_true]

theorem splitScheme_of_ofChars (hurl : ofChars text = .ok url) :
    ∃ after, splitScheme (stripped text) = some (url.scheme, after) := by
  unfold ofChars at hurl
  split at hurl
  case h_1 => cases hurl
  case h_2 scheme after hsplit =>
    refine ⟨after, ?_⟩
    rw [hsplit]
    split at hurl
    case isTrue hfile => rw [fileUrl_scheme hurl, hfile]
    case isFalse =>
      split at hurl
      · obtain ⟨_, _, _, hscheme, _⟩ := afterSlashes_eq_ok hurl
        rw [hscheme]
      · rw [otherUrl_scheme hurl]

/-! ## A root and a path after it -/

variable {slashes : List Char} {api : Url}

theorem stripped_append_cons {c : Char} (hc : isOuter c = false) (before after : List Char) :
    stripped (before ++ c :: after) =
      (before.dropWhile isOuter ++ c :: (after.reverse.dropWhile isOuter).reverse).filter
        fun c => !isInner c := by
  unfold stripped
  rw [dropWhile_append_cons hc, List.reverse_append, List.reverse_cons, List.append_assoc,
    List.singleton_append, dropWhile_append_cons hc]
  simp

/-- What is left of a root and of a path below it.  Only spaces and controls at the end of the
root can stand between the two. -/
theorem stripped_joined (base path : List Char) (hslashes : ∀ c ∈ slashes, c = '/') :
    ∃ kept ended between below,
      stripped (base ++ slashes) = kept ++ ended ∧
      stripped (base ++ '/' :: path) = kept ++ between ++ '/' :: below ∧
      (∀ c ∈ ended, c = '/') ∧ ∀ c ∈ between, c.toNat ≤ 0x20 := by
  have hslash : isOuter '/' = false := by decide
  cases slashes with
  | cons c slashes =>
      obtain rfl := hslashes c List.mem_cons_self
      refine ⟨(base.dropWhile isOuter).filter fun c => !isInner c,
        ('/' :: (slashes.reverse.dropWhile isOuter).reverse).filter fun c => !isInner c, [],
        (path.reverse.dropWhile isOuter).reverse.filter fun c => !isInner c, ?_, ?_, ?_, by simp⟩
      · rw [stripped_append_cons hslash, List.filter_append]
      · rw [stripped_append_cons hslash, List.filter_append, List.append_nil]
        rfl
      · intro c hc
        apply hslashes
        obtain hc := (List.mem_filter.1 hc).1
        rcases List.mem_cons.1 hc with rfl | hc
        · exact List.mem_cons_self
        · exact List.mem_cons_of_mem _ (List.mem_reverse.1
            ((List.dropWhile_suffix _).subset (List.mem_reverse.1 hc)))
  | nil =>
      refine ⟨stripped base, [], ((base.dropWhile isOuter).reverse.takeWhile isOuter).reverse.filter
        fun c => !isInner c, (path.reverse.dropWhile isOuter).reverse.filter fun c => !isInner c,
        by simp, ?_, by simp, ?_⟩
      · rw [stripped_append_cons hslash, stripped, ← List.filter_append, ← List.reverse_append,
          List.takeWhile_append_dropWhile, List.reverse_reverse, List.filter_append]
        rfl
      · intro c hc
        have houter := List.mem_takeWhile_imp (List.mem_reverse.1 (List.mem_filter.1 hc).1)
        exact of_decide_eq_true houter

theorem endsAuthority_of_le {c : Char} (hc : c.toNat ≤ 0x20) :
    endsAuthority true c = false := by
  have hslash : c ≠ '/' := Idna.ne_of_le hc (by decide)
  have hbackslash : c ≠ '\\' := Idna.ne_of_le hc (by decide)
  have hquery : c ≠ '?' := Idna.ne_of_le hc (by decide)
  have hfragment : c ≠ '#' := Idna.ne_of_le hc (by decide)
  simp [endsAuthority, isSlash, hslash, hbackslash, hquery, hfragment]

theorem authorityText_slashes {ended : List Char} (hended : ∀ c ∈ ended, c = '/')
    (text : List Char) : authorityText true (text ++ ended) = authorityText true text := by
  cases ended with
  | nil => rw [List.append_nil]
  | cons c ended =>
      obtain rfl := hended c List.mem_cons_self
      exact takeWhile_append_cons (by decide) _ _

/-- Spaces and controls before a slash belong to the authority, unless it has ended. -/
theorem authorityText_between {between : List Char} (hbetween : ∀ c ∈ between, c.toNat ≤ 0x20)
    (text below : List Char) :
    authorityText true (text ++ between ++ '/' :: below) = authorityText true text ∨
      authorityText true (text ++ between ++ '/' :: below) =
        authorityText true text ++ between := by
  have hall : between.takeWhile (fun c => !endsAuthority true c) = between := by
    rw [List.takeWhile_eq_self_iff]
    intro c hc
    rw [endsAuthority_of_le (hbetween c hc)]
    rfl
  unfold authorityText
  rw [takeWhile_append_cons (by decide), List.takeWhile_append, hall]
  split
  case isFalse => exact .inl rfl
  case isTrue hlength =>
    rw [(List.takeWhile_prefix _).eq_of_length hlength]
    exact .inr rfl

/-- The authority in a text is the same whatever follows the text after a slash. -/
theorem afterSlashes_joined {kept ended between below : List Char}
    (hspecial : isSpecial scheme = true) (hended : ∀ c ∈ ended, c = '/')
    (hbetween : ∀ c ∈ between, c.toNat ≤ 0x20)
    (hapi : afterSlashes scheme ((kept ++ ended).dropWhile (isSlash true)) = .ok api)
    (hurl : afterSlashes scheme
      ((kept ++ between ++ '/' :: below).dropWhile (isSlash true)) = .ok url) :
    url.authority = api.authority := by
  obtain ⟨authority, hroot, hapi⟩ := authorityOf_of_afterSlashes hspecial hapi
  obtain ⟨joined, hjoined, hurl⟩ := authorityOf_of_afterSlashes hspecial hurl
  have hstart : kept.dropWhile (isSlash true) ≠ [] := by
    intro hempty
    have hnone : ended.dropWhile (isSlash true) = [] := by
      rw [List.dropWhile_eq_nil_iff]
      intro c hc
      rw [hended c hc]
      rfl
    rw [List.dropWhile_append, hempty, hnone, List.isEmpty_nil, if_pos rfl] at hroot
    exact authorityOf_nil hspecial false authority hroot
  have hdrop (more : List Char) : (kept ++ more).dropWhile (isSlash true) =
      kept.dropWhile (isSlash true) ++ more := by
    rw [List.dropWhile_append, if_neg (by simpa using hstart)]
  rw [hdrop, authorityText_slashes hended] at hroot
  rw [List.append_assoc, hdrop, ← List.append_assoc] at hjoined
  have hsame : authority = joined := by
    rcases authorityText_between hbetween (kept.dropWhile (isSlash true)) below
      with htext | htext
    · rw [htext, hroot] at hjoined
      exact Except.ok.inj hjoined
    · rw [htext] at hjoined
      rcases List.eq_nil_or_concat between with rfl | ⟨first, last, rfl⟩
      · rw [List.append_nil, hroot] at hjoined
        exact Except.ok.inj hjoined
      · rw [List.concat_eq_append, ← List.append_assoc] at hjoined
        exact absurd hjoined (authorityOf_append
          (hbetween last (by simp)) hspecial false _ joined)
  rw [hurl, hapi, hsame]

/-- **A path changes no authority.**  Where a root and what a path makes of it are both URLs,
they have one scheme and one authority. -/
theorem ofChars_joined {base path : List Char} (hslashes : ∀ c ∈ slashes, c = '/')
    (hapi : ofChars (base ++ slashes) = .ok api) (hweb : IsWeb api.scheme)
    (hurl : ofChars (base ++ '/' :: path) = .ok url) :
    url.scheme = api.scheme ∧ url.authority = api.authority := by
  obtain ⟨kept, ended, between, below, hroot, hjoined, hended, hbetween⟩ :=
    stripped_joined base path hslashes
  obtain ⟨after, hsplit⟩ := splitScheme_of_ofChars hapi
  have hcolon : ':' ∉ ended := fun hmem => by simpa using hended _ hmem
  rw [hweb.ofChars hsplit] at hapi
  rw [hroot] at hsplit
  obtain ⟨within, rfl, hwithin⟩ := splitScheme_of_append hcolon hsplit
  have hbelow := splitScheme_append hwithin (between ++ '/' :: below)
  rw [← List.append_assoc, ← hjoined, ← List.append_assoc] at hbelow
  rw [hweb.ofChars hbelow] at hurl
  obtain ⟨_, _, _, hscheme, _⟩ := afterSlashes_eq_ok hurl
  exact ⟨hscheme, afterSlashes_joined hweb.isSpecial hended hbetween hapi hurl⟩

/-! ## Origins -/

/-- Both URLs have an origin, and it is the same. -/
def SharesOrigin (a b : Url) : Prop :=
  ∃ origin, a.origin = some origin ∧ b.origin = some origin

theorem sharesOrigin_of_sameOrigin {a b : Url} (hsame : a.sameOrigin b = true) :
    a.SharesOrigin b := by
  unfold sameOrigin at hsame
  split at hsame
  case h_1 first second hfirst hsecond =>
    rw [of_decide_eq_true hsame] at hfirst
    exact ⟨second, hfirst, hsecond⟩
  case h_2 => cases hsame

theorem IsWeb.origin (hweb : IsWeb url.scheme) : url.origin = url.directOrigin := by
  have hblob : url.scheme ≠ "blob" := by
    rcases hweb with hscheme | hscheme <;> rw [hscheme] <;> decide
  rw [Url.origin, originWithin, if_neg hblob]

theorem IsWeb.exists_origin (hweb : IsWeb url.scheme) (hurl : Url.ofChars text = .ok url) :
    ∃ origin, url.origin = some origin := by
  obtain ⟨after, hsplit⟩ := splitScheme_of_ofChars hurl
  rw [hweb.ofChars hsplit] at hurl
  obtain ⟨_, authority, -, -, hauthority⟩ := afterSlashes_eq_ok hurl
  rw [hweb.origin, directOrigin, hauthority]
  rcases hweb with hscheme | hscheme <;> rw [hscheme] <;> exact ⟨_, rfl⟩

/-- A root and what a path makes of it share their origin. -/
theorem sharesOrigin_joined {base path : List Char} (hslashes : ∀ c ∈ slashes, c = '/')
    (hapi : ofChars (base ++ slashes) = .ok api) (hweb : IsWeb api.scheme)
    (hurl : ofChars (base ++ '/' :: path) = .ok url) : url.SharesOrigin api := by
  obtain ⟨hscheme, hauthority⟩ := ofChars_joined hslashes hapi hweb hurl
  obtain ⟨origin, horigin⟩ := hweb.exists_origin hapi
  refine ⟨origin, ?_, horigin⟩
  have hsame : url.directOrigin = api.directOrigin := by
    rw [directOrigin, directOrigin, hscheme, hauthority]
  rw [IsWeb.origin (by rw [hscheme]; exact hweb), hsame, ← hweb.origin, horigin]

end Url
end BearerClient
