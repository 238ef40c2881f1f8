import BearerClient.Proofs.Url.Joined

/-!
# Paths below a root

A path of plain segments that is put after a root and a slash stands at the end of the
path of the URL that this makes, segment by segment, if the root goes no further than its
own path.  A root with a query or a fragment takes the path in there, and then the path of
the URL is the same for every path that is put after it.
-/

namespace BearerClient.Url

/-! ## Segments -/

section Parts

variable {p : Char → Bool}

theorem cutAt_ne_nil (text : List Char) : cutAt p text ≠ [] := by
  cases text with
  | nil => simp [cutAt]
  | cons c rest =>
      unfold cutAt
      by_cases hc : p c = true
      · simp [hc]
      · simp only [hc, Bool.false_eq_true, if_false]
        cases cutAt p rest <;> simp

theorem cutAt_append_cons {c : Char} (hc : p c = true) (before after : List Char) :
    cutAt p (before ++ c :: after) = cutAt p before ++ cutAt p after := by
  induction before with
  | nil => simp [cutAt, hc]
  | cons d rest ih =>
      have hrest := cutAt_ne_nil (p := p) rest
      by_cases hd : p d = true
      · simp [cutAt, hd, ih]
      · cases hparts : cutAt p rest with
        | nil => exact absurd hparts hrest
        | cons part parts =>
            simp only [List.cons_append, cutAt, hd, Bool.false_eq_true, if_false, ih, hparts]

theorem mem_cutAt {text : List Char} {c : Char} (hc : c ∈ text) :
    p c = true ∨ ∃ part ∈ cutAt p text, c ∈ part := by
  induction text with
  | nil => cases hc
  | cons d rest ih =>
      by_cases hd : p d = true
      · rcases List.mem_cons.1 hc with rfl | hrest
        · exact .inl hd
        · rcases ih hrest with hsep | ⟨part, hpart, hmem⟩
          · exact .inl hsep
          · exact .inr ⟨part, by simp [cutAt, hd, hpart], hmem⟩
      · cases hparts : cutAt p rest with
        | nil => exact absurd hparts (cutAt_ne_nil rest)
        | cons first parts =>
            have hcut : cutAt p (d :: rest) = (d :: first) :: parts := by
              simp [cutAt, hd, hparts]
            rw [hcut]
            rcases List.mem_cons.1 hc with rfl | hrest
            · exact .inr ⟨c :: first, by simp, by simp⟩
            · rcases ih hrest with hsep | ⟨part, hpart, hmem⟩
              · exact .inl hsep
              · rw [hparts] at hpart
                rcases List.mem_cons.1 hpart with rfl | hlater
                · exact .inr ⟨d :: part, by simp, by simp [hmem]⟩
                · exact .inr ⟨part, by simp [hlater], hmem⟩

theorem cutAt_congr {q : Char → Bool} {text : List Char} (hpq : ∀ c ∈ text, p c = q c) :
    cutAt p text = cutAt q text := by
  induction text with
  | nil => rfl
  | cons c rest ih =>
      have hrest : cutAt p rest = cutAt q rest :=
        ih fun d hd => hpq d (List.mem_cons_of_mem c hd)
      simp only [cutAt, hpq c List.mem_cons_self, hrest]

end Parts

theorem flatMap_cutAt (text : List Char) :
    (cutAt (· = '/') text).flatMap ('/' :: ·) = '/' :: text := by
  induction text with
  | nil => rfl
  | cons c rest ih =>
      by_cases hc : c = '/'
      · simp [cutAt, hc, ih]
      · cases hparts : cutAt (· = '/') rest with
        | nil => exact absurd hparts (cutAt_ne_nil rest)
        | cons part parts =>
            rw [hparts] at ih
            simpa [cutAt, hc, hparts] using ih

/-- A path without its last segments is read first. -/
theorem segmentsFrom_append {last : List (List Char)} (hlast : last ≠ [])
    (reversed first : List (List Char)) :
    segmentsFrom reversed (first ++ last) =
      segmentsFrom (first.foldl pushSegment reversed) last := by
  induction first generalizing reversed with
  | nil => rfl
  | cons segment rest ih =>
      have hrest : rest ++ last ≠ [] := by simp [hlast]
      obtain ⟨next, later, hnext⟩ := List.exists_cons_of_ne_nil hrest
      rw [List.cons_append, hnext, segmentsFrom, ← hnext, ih, List.foldl_cons]
      exact List.cons_ne_nil next later

/-! ## Plain paths -/

/-- ASCII letters, digits, the hyphen and the underscore. -/
def isPlainChar (c : Char) : Bool := c.isAlphanum || c = '-' || c = '_'

/-- A path of one or more segments with single slashes between them, none of them empty
and all of plain characters. -/
def IsPlain (path : List Char) : Prop :=
  ∀ segment ∈ cutAt (· = '/') path, segment ≠ [] ∧ ∀ c ∈ segment, isPlainChar c = true

theorem toNat_of_isPlainChar {c : Char} (hc : isPlainChar c = true) :
    0x20 < c.toNat ∧ c.toNat < 0x7F := by
  have hranges : ((((c.isUpper || c.isLower) || c.isDigit) || c = '-') || c = '_') = true :=
    hc
  simp only [Bool.or_eq_true, decide_eq_true_eq] at hranges
  rcases hranges with (((hupper | hlower) | hdigit) | rfl) | rfl
  · have hrange : 65 ≤ c.toNat ∧ c.toNat ≤ 90 := of_decide_eq_true hupper
    omega
  · obtain ⟨hfirst, hlast⟩ := Bool.and_eq_true_iff.1 hlower
    have hfirst : 97 ≤ c.toNat := of_decide_eq_true hfirst
    have hlast : c.toNat ≤ 122 := of_decide_eq_true hlast
    omega
  · obtain ⟨hfirst, hlast⟩ := Bool.and_eq_true_iff.1 hdigit
    have hfirst : 48 ≤ c.toNat := of_decide_eq_true hfirst
    have hlast : c.toNat ≤ 57 := of_decide_eq_true hlast
    omega
  · decide
  · decide

theorem ne_of_isPlainChar {c d : Char} (hc : isPlainChar c = true)
    (hd : isPlainChar d = false) : c ≠ d := by
  rintro rfl
  rw [hc] at hd
  cases hd

theorem encode_of_isPlainChar {segment : List Char}
    (hplain : ∀ c ∈ segment, isPlainChar c = true) : encode pathSet segment = segment := by
  have hset : pathSet.all (fun d => !isPlainChar d) = true := by decide
  have hchar (c : Char) (hc : isPlainChar c = true) : encodeChar pathSet c = [c] := by
    have hbounds := toNat_of_isPlainChar hc
    have hmember : c ∉ pathSet := by
      intro hmem
      have hnot := List.all_eq_true.1 hset c hmem
      simp [hc] at hnot
    have hlow : ¬c.toNat < 0x20 := by omega
    have hhigh : ¬0x7F ≤ c.toNat := by omega
    simp [encodeChar, mustEncode, hlow, hhigh, hmember]
  induction segment with
  | nil => rfl
  | cons c rest ih =>
      have hrest := ih fun d hd => hplain d (List.mem_cons_of_mem c hd)
      have hfirst := hchar c (hplain c List.mem_cons_self)
      unfold encode at hrest ⊢
      rw [List.flatMap_cons, hfirst, hrest, List.singleton_append]

theorem dots_of_isPlainChar {c : Char} (hc : isPlainChar c = true) (rest : List Char) :
    dots (c :: rest) = none := by
  have hdot : c ≠ '.' := ne_of_isPlainChar hc (by decide)
  have hpercent : c ≠ '%' := ne_of_isPlainChar hc (by decide)
  unfold dots
  split <;> simp_all

theorem pushSegment_plain {segment : List Char} (hne : segment ≠ [])
    (hplain : ∀ c ∈ segment, isPlainChar c = true) (reversed : List (List Char)) :
    pushSegment reversed segment = segment :: reversed ∧
      finishSegments reversed segment = segment :: reversed := by
  obtain ⟨c, rest, rfl⟩ := List.exists_cons_of_ne_nil hne
  have hdots := dots_of_isPlainChar (hplain c List.mem_cons_self) rest
  have hencode := encode_of_isPlainChar hplain
  simp [finishSegments, pushSegment, hdots, hencode]

theorem segmentsFrom_plain {parts : List (List Char)} (hne : parts ≠ [])
    (hplain : ∀ part ∈ parts, part ≠ [] ∧ ∀ c ∈ part, isPlainChar c = true)
    (reversed : List (List Char)) :
    segmentsFrom reversed parts = reversed.reverse ++ parts := by
  induction parts generalizing reversed with
  | nil => exact absurd rfl hne
  | cons part rest ih =>
      have hpart := hplain part List.mem_cons_self
      have hpush := pushSegment_plain hpart.1 hpart.2 reversed
      cases rest with
      | nil => rw [segmentsFrom, hpush.2, List.reverse_cons]
      | cons next later =>
          have hrest := ih (List.cons_ne_nil next later)
            (fun other hother => hplain other (List.mem_cons_of_mem part hother))
            (part :: reversed)
          rw [segmentsFrom, hpush.1, hrest, List.reverse_cons, List.append_assoc]
          · rfl
          · exact List.cons_ne_nil next later

namespace IsPlain

variable {path : List Char}

theorem mem (hplain : IsPlain path) {c : Char} (hc : c ∈ path) :
    c = '/' ∨ isPlainChar c = true := by
  rcases mem_cutAt (p := (· = '/')) hc with hslash | ⟨part, hpart, hmem⟩
  · exact .inl (by simpa using hslash)
  · exact .inr ((hplain part hpart).2 c hmem)

theorem not_mem (hplain : IsPlain path) {c : Char} (hslash : c ≠ '/')
    (hc : isPlainChar c = false) : c ∉ path := by
  intro hmem
  rcases hplain.mem hmem with rfl | hchar
  · exact hslash rfl
  · rw [hc] at hchar
    cases hchar

theorem visible (hplain : IsPlain path) : ∀ c ∈ path, 0x20 < c.toNat := by
  intro c hc
  rcases hplain.mem hc with rfl | hchar
  · decide
  · exact (toNat_of_isPlainChar hchar).1

/-- The segments of a plain path are read as they are, whatever was read before. -/
theorem segments (hplain : IsPlain path) (reversed : List (List Char)) :
    segmentsFrom reversed (cutAt (isSlash true) path) =
      reversed.reverse ++ cutAt (· = '/') path := by
  have hcut : cutAt (isSlash true) path = cutAt (· = '/') path := by
    apply cutAt_congr
    intro c hc
    have hbackslash : c ≠ '\\' := by
      rintro rfl
      exact hplain.not_mem (by decide) (by decide) hc
    simp [isSlash, hbackslash]
  rw [hcut]
  exact segmentsFrom_plain (cutAt_ne_nil path) hplain reversed

theorem replicate (count : Nat) : IsPlain (List.replicate (count + 1) 'a') := by
  have hcut : cutAt (· = '/') (List.replicate (count + 1) 'a') =
      [List.replicate (count + 1) 'a'] := by
    induction count with
    | zero => rfl
    | succ count ih => rw [List.replicate_succ, cutAt, ih]; simp
  intro segment hsegment
  rw [hcut, List.mem_singleton] at hsegment
  subst hsegment
  refine ⟨by simp, fun c hc => ?_⟩
  rw [List.eq_of_mem_replicate hc]
  decide

end IsPlain

/-! ## The path of a URL -/

theorem pathAfterAuthority_below {path : List Char} (hplain : IsPlain path)
    {text : List Char} (htext : ∀ c ∈ text.head?, isSlash true c = true) :
    '/' :: path <:+ (pathAfterAuthority true (text ++ '/' :: path)).text := by
  have hslash : isSlash true '/' = true := by decide
  have hsegments : ∃ earlier, pathAfterAuthority true (text ++ '/' :: path) =
      .rooted (earlier ++ cutAt (· = '/') path) := by
    cases text with
    | nil =>
        refine ⟨[], ?_⟩
        simp only [List.nil_append, pathAfterAuthority, hslash, if_true, Url.segments]
        rw [hplain.segments]
        rfl
    | cons c rest =>
        have hc : isSlash true c = true := htext c rfl
        simp only [List.cons_append, pathAfterAuthority, hc, if_true, Url.segments]
        rw [cutAt_append_cons hslash, segmentsFrom_append (cutAt_ne_nil path),
          hplain.segments]
        exact ⟨_, rfl⟩
  obtain ⟨earlier, hrooted⟩ := hsegments
  rw [hrooted, Path.text, List.flatMap_append, flatMap_cutAt]
  exact List.suffix_append _ _

variable {scheme : String} {text below : List Char} {url : Url}

/-- As much of a text as comes after its authority. -/
def afterAuthority (text : List Char) : List Char :=
  text.dropWhile fun c => !endsAuthority true c

theorem afterSlashes_eq (hspecial : isSpecial scheme = true) (text : List Char) :
    afterSlashes scheme text =
      (authorityOf scheme false (authorityText true text)).map fun authority =>
        ({ scheme, authority := some authority,
           path := pathAfterAuthority true (splitPath (afterAuthority text)).1 :
             Url }).withRest (splitPath (afterAuthority text)).2 := by
  rw [← authorityOf_followed hspecial (!(afterAuthority text).isEmpty)]
  unfold afterSlashes afterAuthority authorityText
  simp only [hspecial]
  cases authorityOf scheme _ _ <;> rfl

/-- What follows a text after a slash has no part in the authority. -/
theorem afterSlashes_below (hspecial : isSpecial scheme = true) (text below : List Char) :
    afterSlashes scheme (text ++ '/' :: below) =
      (authorityOf scheme false (authorityText true text)).map fun authority =>
        ({ scheme, authority := some authority,
           path := pathAfterAuthority true
             (splitPath (afterAuthority text ++ '/' :: below)).1 : Url }).withRest
          (splitPath (afterAuthority text ++ '/' :: below)).2 := by
  have htake : authorityText true (text ++ '/' :: below) = authorityText true text :=
    takeWhile_append_cons (by decide) text below
  have hdrop : afterAuthority (text ++ '/' :: below) = afterAuthority text ++ '/' :: below :=
    dropWhile_append_cons (by decide) text below
  rw [afterSlashes_eq hspecial, htake, hdrop]

theorem afterSlashes_below_isOk (hspecial : isSpecial scheme = true) (other : List Char)
    (hurl : afterSlashes scheme (text ++ '/' :: below) = .ok url) :
    ∃ url, afterSlashes scheme (text ++ '/' :: other) = .ok url := by
  rw [afterSlashes_below hspecial] at hurl ⊢
  cases hauthority : authorityOf scheme false (authorityText true text) with
  | error fault =>
      rw [hauthority] at hurl
      cases hurl
  | ok authority => exact ⟨_, rfl⟩

theorem head?_afterAuthority {c : Char} (hc : c ∈ (afterAuthority text).head?) :
    endsAuthority true c = true := by
  have hfalse := List.head?_dropWhile_not (fun c => !endsAuthority true c) text
  unfold afterAuthority at hc
  rw [Option.mem_def] at hc
  rw [hc] at hfalse
  simpa using hfalse

/-- Below a root without a query and a fragment, the path of a URL ends with the path
that it was made of. -/
theorem path_below (hspecial : isSpecial scheme = true)
    (hmarks : ∀ c ∈ text, c ≠ '?' ∧ c ≠ '#') (hplain : IsPlain below)
    (hurl : afterSlashes scheme (text ++ '/' :: below) = .ok url) :
    '/' :: below <:+ url.path.text := by
  have hnone : ∀ c ∈ afterAuthority text ++ '/' :: below, (c ≠ '?' && c ≠ '#') = true := by
    intro c hc
    rcases List.mem_append.1 hc with htext | hbelow
    · have hmark := hmarks c ((List.dropWhile_suffix _).subset htext)
      simp [hmark.1, hmark.2]
    · rcases List.mem_cons.1 hbelow with rfl | hmem
      · decide
      · have hquery : c ≠ '?' := by
          rintro rfl
          exact hplain.not_mem (by decide) (by decide) hmem
        have hfragment : c ≠ '#' := by
          rintro rfl
          exact hplain.not_mem (by decide) (by decide) hmem
        simp [hquery, hfragment]
  have hsplit : (splitPath (afterAuthority text ++ '/' :: below)).1 =
      afterAuthority text ++ '/' :: below := List.takeWhile_eq_self_iff.2 hnone
  have hhead : ∀ c ∈ (afterAuthority text).head?, isSlash true c = true := by
    intro c hc
    have hmark := hmarks c ((List.dropWhile_suffix _).subset (List.mem_of_mem_head? hc))
    have hends := head?_afterAuthority hc
    simpa [endsAuthority, hmark.1, hmark.2] using hends
  rw [afterSlashes_below hspecial] at hurl
  cases hauthority : authorityOf scheme false (authorityText true text) with
  | error fault =>
      rw [hauthority] at hurl
      cases hurl
  | ok authority =>
      rw [hauthority] at hurl
      have hpath := pathAfterAuthority_below hplain hhead
      cases hurl
      rw [← hsplit] at hpath
      exact hpath

/-- A root with a query or a fragment has a path of its own, whatever is put after it. -/
theorem path_after_mark (hspecial : isSpecial scheme = true) {mark : Char}
    (hmark : mark = '?' ∨ mark = '#') (hmem : mark ∈ text)
    (hurl : afterSlashes scheme (text ++ '/' :: below) = .ok url) :
    url.path = pathAfterAuthority true (splitPath (afterAuthority text)).1 := by
  have hends : endsAuthority true mark = true := by
    rcases hmark with rfl | rfl <;> decide
  have hcut (before after : List Char) :
      (splitPath (before ++ mark :: after)).1 = (splitPath before).1 :=
    takeWhile_append_cons (by rcases hmark with rfl | rfl <;> decide) before after
  obtain ⟨before, after, hbefore⟩ := List.append_of_mem hmem
  have hafter : afterAuthority text = afterAuthority before ++ mark :: after := by
    rw [hbefore]
    exact dropWhile_append_cons (by simp [hends]) before after
  have hsplit : (splitPath (afterAuthority text ++ '/' :: below)).1 =
      (splitPath (afterAuthority text)).1 := by
    rw [hafter, List.append_assoc, List.cons_append, hcut, hcut]
  rw [afterSlashes_below hspecial] at hurl
  cases hauthority : authorityOf scheme false (authorityText true text) with
  | error fault =>
      rw [hauthority] at hurl
      cases hurl
  | ok authority =>
      rw [hauthority] at hurl
      cases hurl
      rw [← hsplit]
      rfl

/-! ## Roots -/

theorem mem_dropWhile_iff {p : Char → Bool} {c : Char} (hc : p c = false)
    {text : List Char} : c ∈ text.dropWhile p ↔ c ∈ text := by
  constructor
  · exact (List.dropWhile_sublist p).mem
  · intro hmem
    rw [← List.takeWhile_append_dropWhile (p := p) (l := text)] at hmem
    rcases List.mem_append.1 hmem with htake | hdrop
    · have hp : p c = true := List.mem_takeWhile_imp htake
      rw [hc] at hp
      cases hp
    · exact hdrop

/-- What is left of a root before a slash. -/
def rootText (base : List Char) : List Char :=
  (base.dropWhile isOuter).filter fun c => !isInner c

theorem isOuter_of_visible {c : Char} (hc : 0x20 < c.toNat) : isOuter c = false := by
  simpa [isOuter] using hc

theorem isInner_of_visible {c : Char} (hc : 0x20 < c.toNat) : isInner c = false := by
  have htab : c ≠ '\t' := by rintro rfl; exact absurd hc (by decide)
  have hfeed : c ≠ '\n' := by rintro rfl; exact absurd hc (by decide)
  have hreturn : c ≠ '\x0d' := by rintro rfl; exact absurd hc (by decide)
  simp [isInner, htab, hfeed, hreturn]

theorem stripped_below {below : List Char} (hvisible : ∀ c ∈ below, 0x20 < c.toNat)
    (base : List Char) : stripped (base ++ '/' :: below) = rootText base ++ '/' :: below := by
  have houter : below.reverse.dropWhile isOuter = below.reverse := by
    cases hlast : below.reverse with
    | nil => rfl
    | cons c rest =>
        have hmem : c ∈ below := List.mem_reverse.1 (by rw [hlast]; exact List.mem_cons_self)
        rw [List.dropWhile_cons_of_neg]
        simp [isOuter_of_visible (hvisible c hmem)]
  have hinner : ('/' :: below).filter (fun c => !isInner c) = '/' :: below := by
    rw [List.filter_eq_self]
    intro c hc
    rcases List.mem_cons.1 hc with rfl | hmem
    · decide
    · rw [isInner_of_visible (hvisible c hmem)]
      rfl
  rw [stripped_append_cons (by decide), houter, List.reverse_reverse, List.filter_append,
    hinner, rootText]

theorem rootText_eq (base : List Char) : ∃ ended, rootText base = stripped base ++ ended := by
  refine ⟨((base.dropWhile isOuter).reverse.takeWhile isOuter).reverse.filter
    fun c => !isInner c, ?_⟩
  rw [stripped, ← List.filter_append, ← List.reverse_append, List.takeWhile_append_dropWhile,
    List.reverse_reverse, rootText]

variable {slashes base : List Char} {api : Url}

theorem visible_of_slashes (hslashes : ∀ c ∈ slashes, c = '/') :
    ∀ c ∈ slashes, 0x20 < c.toNat := by
  intro c hc
  rw [hslashes c hc]
  decide

/-- A root has a scheme, and then something other than slashes. -/
theorem splitScheme_rootText (hslashes : ∀ c ∈ slashes, c = '/')
    (hapi : ofChars (base ++ slashes) = .ok api) (hweb : IsWeb api.scheme) :
    ∃ within, splitScheme (rootText base) = some (api.scheme, within) ∧
      within.dropWhile (isSlash true) ≠ [] := by
  obtain ⟨after, hsplit⟩ := splitScheme_of_ofChars hapi
  rw [hweb.ofChars hsplit] at hapi
  have hstart : after.dropWhile (isSlash true) ≠ [] := by
    intro hempty
    rw [hempty] at hapi
    obtain ⟨authority, hauthority, -⟩ := authorityOf_of_afterSlashes hweb.isSpecial hapi
    exact authorityOf_nil hweb.isSpecial false authority hauthority
  cases slashes with
  | nil =>
      -- What ends the root is left out of a URL only where it stands at the end.
      rw [List.append_nil] at hsplit
      obtain ⟨ended, hroot⟩ := rootText_eq base
      refine ⟨after ++ ended, ?_, ?_⟩
      · rw [hroot]
        exact splitScheme_append hsplit ended
      · rw [List.dropWhile_append, if_neg (by simpa using hstart)]
        simp [hstart]
  | cons c rest =>
      obtain rfl := hslashes c List.mem_cons_self
      have hrest : ∀ d ∈ rest, d = '/' := fun d hd =>
        hslashes d (List.mem_cons_of_mem _ hd)
      have hcolon : ':' ∉ '/' :: rest := fun hmem => by simpa using hslashes _ hmem
      rw [stripped_below (visible_of_slashes hrest)] at hsplit
      obtain ⟨within, rfl, hwithin⟩ := splitScheme_of_append hcolon hsplit
      refine ⟨within, hwithin, fun hempty => hstart ?_⟩
      rw [List.dropWhile_append, hempty, List.isEmpty_nil, if_pos rfl,
        List.dropWhile_eq_nil_iff]
      intro d hd
      rw [hslashes d hd]
      decide

/-- **What is put below a root.**  There is one text to which everything is added that is
put below a root, and it has the marks of the root in it. -/
theorem ofChars_below (hslashes : ∀ c ∈ slashes, c = '/')
    (hapi : ofChars (base ++ slashes) = .ok api) (hweb : IsWeb api.scheme) :
    ∃ text,
      (∀ below, (∀ c ∈ below, 0x20 < c.toNat) →
        ofChars (base ++ '/' :: below) = afterSlashes api.scheme (text ++ '/' :: below)) ∧
      ∀ mark, mark = '?' ∨ mark = '#' → (mark ∈ text ↔ mark ∈ base) := by
  obtain ⟨within, hsplit, hstart⟩ := splitScheme_rootText hslashes hapi hweb
  refine ⟨within.dropWhile (isSlash true), fun below hvisible => ?_, fun mark hmark => ?_⟩
  · have hbelow := splitScheme_append hsplit ('/' :: below)
    rw [← stripped_below hvisible] at hbelow
    rw [hweb.ofChars hbelow, List.dropWhile_append, if_neg (by simpa using hstart)]
  · have hslash : isSlash true mark = false := by rcases hmark with rfl | rfl <;> decide
    have houter : isOuter mark = false := by rcases hmark with rfl | rfl <;> decide
    have hinner : isInner mark = false := by rcases hmark with rfl | rfl <;> decide
    have hscheme : isSchemeChar mark = false := by rcases hmark with rfl | rfl <;> decide
    have hcolon : mark ≠ ':' := by rcases hmark with rfl | rfl <;> decide
    obtain ⟨c, name, -, hname, -, hroot⟩ := splitScheme_eq_some_iff.1 hsplit
    have hbefore : mark ∉ c :: name := by
      intro hmem
      have hchar := hname mark hmem
      rw [hscheme] at hchar
      cases hchar
    calc mark ∈ within.dropWhile (isSlash true)
        ↔ mark ∈ within := mem_dropWhile_iff hslash
      _ ↔ mark ∈ rootText base := by
          rw [hroot, List.mem_append, or_iff_right hbefore, List.mem_cons,
            or_iff_right hcolon]
      _ ↔ mark ∈ base := by
          rw [rootText, List.mem_filter, mem_dropWhile_iff houter, hinner]
          simp

end BearerClient.Url
