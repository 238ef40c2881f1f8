import BearerClient.Proofs.Operation.Endpoints
import BearerClient.Proofs.Operation.Refusal

/-!
# Resolving what has been resolved

A path below the root makes a URL of the API, and that URL can be the path of a call again, as a
link that the API gives.  It is followed as it stands if it is known for a whole URL.  Whole URLs
are known by their first letters, which are those of the root; so the spelling of the root decides,
for all paths alike.  Below a root that is spelled in another way, a URL of the API is a path like
any other, and the root is put before it once more.
-/

namespace BearerClient.Config

variable {config : Config} {api : Url} {text : List Char}

/-! ## Whole URLs -/

theorem isAbsolute_iff :
    isAbsolute text = true ↔
      ∃ scheme, Url.IsWeb scheme ∧ scheme.toList ++ "://".toList <+: text := by
  rw [isAbsolute, Bool.or_eq_true, List.isPrefixOf_iff_prefix, List.isPrefixOf_iff_prefix]
  constructor
  · rintro (hstarts | hstarts)
    · exact ⟨"http", .inl rfl, hstarts⟩
    · exact ⟨"https", .inr rfl, hstarts⟩
  · rintro ⟨scheme, rfl | rfl, hstarts⟩
    · exact .inl hstarts
    · exact .inr hstarts

/-- Two slashes are not made up of one that is added, unless both are added. -/
theorem prefix_of_joined {scheme base below : List Char} (hscheme : '/' ∉ scheme)
    (hend : base.getLast? ≠ some '/') (hmore : base ≠ scheme)
    (hstarts : scheme ++ ['/', '/'] <+: base ++ '/' :: below) :
    scheme ++ ['/', '/'] <+: base := by
  obtain ⟨rest, hrest⟩ := hstarts
  obtain ⟨more, hbase, -⟩ | ⟨cut, hcut, hbelow⟩ := List.append_eq_append_iff.1 hrest
  · exact ⟨more, hbase.symm⟩
  · cases cut with
    | nil =>
        rw [List.append_nil] at hcut
        exact ⟨[], by rw [List.append_nil, hcut]⟩
    | cons c cut =>
        obtain rfl : '/' = c := (List.cons.inj hbelow).1
        exfalso
        obtain ⟨past, rfl, hpast⟩ | ⟨past, rfl, hpast⟩ := List.append_eq_append_iff.1 hcut
        · cases past with
          | nil => exact hmore (List.append_nil _)
          | cons d past =>
              -- The base has gone into the slashes, and so it ends with one.
              have hlast : (d :: past).getLast? = some '/' := by
                have hmem : ∀ e ∈ d :: past, e = '/' := fun e he => by
                  have hslashes : e ∈ ['/', '/'] := hpast ▸ List.mem_append_left _ he
                  simpa using hslashes
                rw [List.getLast?_eq_some_getLast (List.cons_ne_nil d past)]
                exact congrArg some (hmem _ (List.getLast_mem _))
              rw [List.getLast?_append, hlast] at hend
              exact hend rfl
        · cases past with
          | nil => exact hmore (List.append_nil _).symm
          | cons d past =>
              obtain rfl : '/' = d := (List.cons.inj hpast).1
              exact hscheme (by simp)

theorem bareRoot_getLast? (config : Config) : config.bareRoot.getLast? ≠ some '/' := by
  intro hlast
  rw [bareRoot, List.getLast?_reverse] at hlast
  obtain ⟨rest, hrest⟩ := List.head?_eq_some_iff.1 hlast
  have hne : config.root.toList.reverse.dropWhile isSlash ≠ [] := by
    rw [hrest]
    exact List.cons_ne_nil _ _
  have hhead := List.head_dropWhile_not isSlash hne
  simp only [hrest, List.head_cons] at hhead
  exact absurd hhead (by decide)

section Root

variable (hroot : config.rootUrl = .ok api) (hweb : Url.IsWeb api.scheme)
include hroot hweb

/-- A root begins with a letter, and has more than a scheme. -/
theorem bareRoot_parts : ∃ within, Url.splitScheme (Url.rootText config.bareRoot) =
    some (api.scheme, within) ∧ within ≠ [] := by
  obtain ⟨slashes, hsplit, hslashes⟩ := config.exists_slashes
  have hparse := rootUrl_eq_ok_iff.1 hroot
  rw [Url.parse, hsplit] at hparse
  obtain ⟨within, hscheme, hstart⟩ := Url.splitScheme_rootText hslashes hparse hweb
  refine ⟨within, hscheme, ?_⟩
  rintro rfl
  exact hstart rfl

/-- What follows the root, from a slash on, does not make it a whole URL. -/
theorem isAbsolute_append (below : List Char) :
    isAbsolute (config.bareRoot ++ '/' :: below) = isAbsolute config.bareRoot := by
  obtain ⟨within, hsplit, hwithin⟩ := bareRoot_parts hroot hweb
  rw [Bool.eq_iff_iff, isAbsolute_iff, isAbsolute_iff]
  refine exists_congr fun scheme => and_congr_right fun hscheme => ⟨fun hstarts => ?_,
    fun hstarts => hstarts.trans (List.prefix_append ..)⟩
  have hslash : '/' ∉ scheme.toList ++ [':'] := by rcases hscheme with rfl | rfl <;> decide
  have hmore : config.bareRoot ≠ scheme.toList ++ [':'] := by
    intro heq
    rw [heq] at hsplit
    have hbare : Url.splitScheme (Url.rootText (scheme.toList ++ [':'])) = some (scheme, []) := by
      rcases hscheme with rfl | rfl <;> decide
    rw [hbare] at hsplit
    exact hwithin (Prod.mk.inj (Option.some.inj hsplit)).2.symm
  have hjoined : scheme.toList ++ "://".toList = (scheme.toList ++ [':']) ++ ['/', '/'] := by
    rw [List.append_assoc]
    rfl
  rw [hjoined] at hstarts ⊢
  exact prefix_of_joined hslash config.bareRoot_getLast? hmore hstarts

theorem isAbsolute_root : isAbsolute config.root.toList = isAbsolute config.bareRoot := by
  obtain ⟨slashes, hsplit, hslashes⟩ := config.exists_slashes
  rw [hsplit]
  cases slashes with
  | nil => rw [List.append_nil]
  | cons c slashes =>
      obtain rfl := hslashes c List.mem_cons_self
      exact isAbsolute_append hroot hweb slashes

end Root

/-! ## Resolving twice -/

variable {path : String}

theorem endpointUrl_of_relative (hrelative : isAbsolute path.toList = false) :
    (config.endpointUrl path).toList = config.bareRoot ++ '/' :: path.toList.dropWhile isSlash := by
  rw [endpointUrl, hrelative, if_neg Bool.false_ne_true, String.toList_ofList, bareRoot]

/-- What has been put below the root is a whole URL exactly if the root is one. -/
theorem isAbsolute_endpointUrl (hroot : config.rootUrl = .ok api) (hweb : Url.IsWeb api.scheme)
    (hrelative : isAbsolute path.toList = false) :
    isAbsolute (config.endpointUrl path).toList = isAbsolute config.root.toList := by
  rw [endpointUrl_of_relative hrelative, isAbsolute_append hroot hweb, isAbsolute_root hroot hweb]

/-- A root does not begin with a slash, and so neither does what is below it. -/
theorem dropWhile_endpointUrl (hroot : config.rootUrl = .ok api) (hweb : Url.IsWeb api.scheme)
    (hrelative : isAbsolute path.toList = false) :
    (config.endpointUrl path).toList.dropWhile isSlash = (config.endpointUrl path).toList := by
  obtain ⟨within, hsplit, -⟩ := bareRoot_parts hroot hweb
  rw [endpointUrl_of_relative hrelative]
  cases hbare : config.bareRoot with
  | nil =>
      rw [hbare] at hsplit
      cases hsplit
  | cons c rest =>
      rw [List.cons_append, List.dropWhile_cons_of_neg]
      intro hslash
      obtain rfl : c = '/' := of_decide_eq_true hslash
      rw [hbare] at hsplit
      cases hsplit

/-- What has been put below the root has its origin, so as a whole URL it is followed. -/
theorem requestUrl_of_spelled (hroot : config.rootUrl = .ok api) (hweb : Url.IsWeb api.scheme)
    (hrelative : isAbsolute path.toList = false) {url : Url}
    (hurl : Url.parse (config.endpointUrl path) = .ok url)
    (hspelled : isAbsolute config.root.toList = true) :
    config.requestUrl (config.endpointUrl path) = .ok (config.endpointUrl path) := by
  have hwhole : isAbsolute (config.endpointUrl path).toList = true := by
    rw [isAbsolute_endpointUrl hroot hweb hrelative, hspelled]
  have hsame : url.sameOrigin api = true :=
    Url.sameOrigin_iff.2 (sharesOrigin_of_endpointUrl hroot hweb hrelative hurl)
  rw [requestUrl, if_pos hwhole, hurl, hroot]
  simp only [bind, Except.bind, hsame, if_true]

/-- As a path it is put below the root once more. -/
theorem requestUrl_of_misspelled (hroot : config.rootUrl = .ok api)
    (hweb : Url.IsWeb api.scheme) (hrelative : isAbsolute path.toList = false)
    (hmisspelled : isAbsolute config.root.toList = false) :
    config.requestUrl (config.endpointUrl path) =
      .ok (String.ofList (config.bareRoot ++ '/' :: (config.endpointUrl path).toList)) := by
  have hpath : isAbsolute (config.endpointUrl path).toList = false := by
    rw [isAbsolute_endpointUrl hroot hweb hrelative, hmisspelled]
  have htwice : (config.endpointUrl (config.endpointUrl path)).toList = _ :=
    endpointUrl_of_relative hpath
  rw [dropWhile_endpointUrl hroot hweb hrelative] at htwice
  rw [requestUrl, if_neg (by rw [hpath]; exact Bool.false_ne_true), ← htwice, String.ofList_toList]

/-- **What has been resolved is resolved to itself**, below a root of the API that begins with
`http://` or `https://` in these very letters.  Below any other root that is valid, the root is put
before it again, whatever the path is. -/
theorem resolves_twice (config : Config) (path : String) {url : Url}
    (hvalid : config.validate = .ok ()) (hrelative : isAbsolute path.toList = false)
    (hurl : Url.parse (config.endpointUrl path) = .ok url) :
    (config.requestUrl (config.endpointUrl path) = .ok (config.endpointUrl path) ↔
      isAbsolute config.root.toList = true) ∧
    (isAbsolute config.root.toList = false →
      config.requestUrl (config.endpointUrl path) =
        .ok (String.ofList (config.bareRoot ++ '/' :: (config.endpointUrl path).toList))) := by
  obtain ⟨api, hroot, hweb⟩ := rootUrl_of_validate hvalid
  refine ⟨⟨fun hfixed => ?_, requestUrl_of_spelled hroot hweb hrelative hurl⟩,
    requestUrl_of_misspelled hroot hweb hrelative⟩
  by_contra hmisspelled
  have htwice := requestUrl_of_misspelled hroot hweb hrelative
    (Bool.eq_false_iff.2 hmisspelled)
  rw [hfixed] at htwice
  -- A text is not what remains of it when something is put before it.
  have hlength := congrArg (String.toList · |>.length) (Except.ok.inj htwice)
  simp only [String.toList_ofList, List.length_append, List.length_cons] at hlength
  omega

/-- A root with a port of its own and slashes at its end. -/
theorem resolves_twice_port :
    let config : Config :=
      { apiUrl := " https://API.test:8443/v1// ", login := ⟨"user", "secret", "id", "key"⟩ }
    config.validate = .ok () ∧ config.endpointUrl "/nodes" = "https://API.test:8443/v1/nodes" ∧
      config.requestUrl (config.endpointUrl "/nodes") = .ok (config.endpointUrl "/nodes") := by
  intro config
  have hvalid : config.validate = .ok () := by decide +kernel +zetaReduce
  have hpath : isAbsolute "/nodes".toList = false := by decide
  have hspelled : isAbsolute config.root.toList = true := by decide +kernel +zetaReduce
  have hresolved : config.endpointUrl "/nodes" = "https://API.test:8443/v1/nodes" := by
    decide +kernel +zetaReduce
  have hread : (Url.parse? (config.endpointUrl "/nodes")).isSome = true := by
    decide +kernel +zetaReduce
  clear_value config
  cases hurl : Url.parse (config.endpointUrl "/nodes") with
  | error fault =>
      rw [Url.parse?, hurl] at hread
      cases hread
  | ok url =>
      exact ⟨hvalid, hresolved, (resolves_twice config "/nodes" hvalid hpath hurl).1.2 hspelled⟩

/-- A root whose scheme is in capital letters is valid, and its own URLs are not followed. -/
theorem resolves_twice_capitals :
    let config : Config :=
      { apiUrl := "HTTPS://api.test/v1", login := ⟨"user", "secret", "id", "key"⟩ }
    config.validate = .ok () ∧ isAbsolute "nodes".toList = false ∧
      (Url.parse? (config.endpointUrl "nodes")).isSome = true ∧
      config.endpointUrl "nodes" = "HTTPS://api.test/v1/nodes" ∧
      config.requestUrl (config.endpointUrl "nodes") =
        .ok "HTTPS://api.test/v1/HTTPS://api.test/v1/nodes" := by
  intro config
  refine ⟨?_, ?_, ?_, ?_, ?_⟩
  all_goals decide +kernel +zetaReduce

end BearerClient.Config
