import BearerClient.Proofs.Operation.Origin
import BearerClient.Proofs.Url.Below
import BearerClient.Wire.Target

/-!
# Which endpoints are reached

A configuration is checked by reading its root as a URL, while a path is put after the
root as a text.  The two agree on the roots that take paths: those without a query and a
fragment, which are still URLs with a slash after them.  Below such a root every plain
path is reached, and so every grant goes to its endpoint; below any other root there are
plain paths that are not.
-/

namespace BearerClient

namespace Config

variable {config : Config} {api : Url} {path : String}

/-- The root has neither a query nor a fragment, and may be followed by a slash. -/
def TakesPaths (config : Config) : Prop :=
  '?' ∉ config.root.toList ∧ '#' ∉ config.root.toList ∧
    ∃ url, Url.parse (config.root ++ "/") = .ok url

/-- The path leads to a URL of the API, at the end of whose path it stands. -/
def Reaches (config : Config) (api : Url) (path : String) : Prop :=
  ∃ url, Url.parse (config.endpointUrl path) = .ok url ∧ url.SharesOrigin api ∧
    '/' :: path.toList <:+ url.path.text

/-- The root without the slashes at its end. -/
def bareRoot (config : Config) : List Char :=
  (config.root.toList.reverse.dropWhile isSlash).reverse

theorem exists_slashes (config : Config) :
    ∃ slashes, config.root.toList = config.bareRoot ++ slashes ∧ ∀ c ∈ slashes, c = '/' := by
  refine ⟨(config.root.toList.reverse.takeWhile isSlash).reverse, ?_, ?_⟩
  · rw [bareRoot, ← List.reverse_append, List.takeWhile_append_dropWhile,
      List.reverse_reverse]
  · intro c hc
    have hslash : isSlash c = true := List.mem_takeWhile_imp (List.mem_reverse.1 hc)
    simpa [isSlash] using hslash

theorem mem_bareRoot {mark : Char} (hmark : isSlash mark = false) :
    mark ∈ config.bareRoot ↔ mark ∈ config.root.toList := by
  rw [bareRoot, List.mem_reverse, Url.mem_dropWhile_iff hmark, List.mem_reverse]

theorem isAbsolute_of_isPlain (hplain : Url.IsPlain path.toList) :
    isAbsolute path.toList = false := by
  have hcolon : ':' ∉ path.toList := hplain.not_mem (by decide) (by decide)
  have hother (scheme : List Char) (hscheme : ':' ∈ scheme) :
      scheme.isPrefixOf path.toList = false := by
    by_contra hstarts
    have hstarts : scheme <+: path.toList :=
      List.isPrefixOf_iff_prefix.1 (by simpa using hstarts)
    exact hcolon (hstarts.subset hscheme)
  rw [isAbsolute, hother _ (by decide), hother _ (by decide)]
  rfl

theorem endpointUrl_of_isPlain (hplain : Url.IsPlain path.toList) :
    (config.endpointUrl path).toList = config.bareRoot ++ '/' :: path.toList := by
  have hfirst : path.toList.dropWhile isSlash = path.toList := by
    cases hpath : path.toList with
    | nil => rfl
    | cons c rest =>
        rw [List.dropWhile_cons_of_neg]
        rw [hpath] at hplain
        intro hslash
        obtain rfl : c = '/' := by simpa [isSlash] using hslash
        have hempty : ([] : List Char) ∈ Url.cutAt (· = '/') ('/' :: rest) := by
          simp [Url.cutAt]
        exact (hplain [] hempty).1 rfl
  rw [endpointUrl, isAbsolute_of_isPlain hplain, if_neg Bool.false_ne_true,
    String.toList_ofList, hfirst, bareRoot]

/-- The text of a root to which paths are added, also the slash that may follow the
root. -/
theorem exists_text (hroot : config.rootUrl = .ok api) (hweb : Url.IsWeb api.scheme) :
    ∃ text,
      (∀ below, (∀ c ∈ below, 0x20 < c.toNat) →
        Url.ofChars (config.bareRoot ++ '/' :: below) =
          Url.afterSlashes api.scheme (text ++ '/' :: below)) ∧
      (∃ slashes, Url.parse (config.root ++ "/") =
        Url.afterSlashes api.scheme (text ++ '/' :: slashes)) ∧
      ∀ mark, mark = '?' ∨ mark = '#' → (mark ∈ text ↔ mark ∈ config.root.toList) := by
  obtain ⟨slashes, hsplit, hslashes⟩ := config.exists_slashes
  have hparse := rootUrl_eq_ok_iff.1 hroot
  rw [Url.parse, hsplit] at hparse
  obtain ⟨text, hbelow, hmarks⟩ := Url.ofChars_below hslashes hparse hweb
  have hfollowed : (config.root ++ "/").toList = config.bareRoot ++ '/' :: slashes := by
    have hall : slashes = List.replicate slashes.length '/' :=
      List.eq_replicate_iff.2 ⟨rfl, hslashes⟩
    rw [String.toList_append, hsplit, List.append_assoc]
    change config.bareRoot ++ (slashes ++ ['/']) = _
    rw [hall, ← List.replicate_succ', List.replicate_succ]
  refine ⟨text, hbelow, ⟨slashes, ?_⟩, fun mark hmark => ?_⟩
  · rw [Url.parse, hfollowed]
    exact hbelow slashes (Url.visible_of_slashes hslashes)
  · rw [hmarks mark hmark]
    exact mem_bareRoot (by rcases hmark with rfl | rfl <;> decide)

theorem TakesPaths.reaches (htakes : config.TakesPaths) (hroot : config.rootUrl = .ok api)
    (hweb : Url.IsWeb api.scheme) (hplain : Url.IsPlain path.toList) :
    config.Reaches api path := by
  obtain ⟨hquery, hfragment, followed, hfollowed⟩ := htakes
  obtain ⟨text, hbelow, ⟨slashes, hslash⟩, hmarks⟩ := exists_text hroot hweb
  rw [hslash] at hfollowed
  have hjoined : Url.parse (config.endpointUrl path) =
      Url.afterSlashes api.scheme (text ++ '/' :: path.toList) := by
    rw [Url.parse, endpointUrl_of_isPlain hplain]
    exact hbelow path.toList hplain.visible
  obtain ⟨url, hurl⟩ :=
    Url.afterSlashes_below_isOk hweb.isSpecial path.toList hfollowed
  have hfree : ∀ c ∈ text, c ≠ '?' ∧ c ≠ '#' := by
    intro c hc
    constructor
    · rintro rfl
      exact hquery ((hmarks _ (.inl rfl)).1 hc)
    · rintro rfl
      exact hfragment ((hmarks _ (.inr rfl)).1 hc)
  have hpath := Url.path_below hweb.isSpecial hfree hplain hurl
  rw [← hjoined] at hurl
  exact ⟨url, hurl, sharesOrigin_of_endpointUrl hroot hweb (isAbsolute_of_isPlain hplain) hurl,
    hpath⟩

/-- A root with a query or a fragment has a path that is too short for some others. -/
theorem not_mem_of_reaches (hroot : config.rootUrl = .ok api) (hweb : Url.IsWeb api.scheme)
    (hreaches : ∀ path : String, Url.IsPlain path.toList → config.Reaches api path)
    {mark : Char} (hmark : mark = '?' ∨ mark = '#') : mark ∉ config.root.toList := by
  intro hmem
  obtain ⟨text, hbelow, -, hmarks⟩ := exists_text hroot hweb
  have htext : mark ∈ text := (hmarks mark hmark).2 hmem
  -- A path that is longer than the root's own cannot stand at its end.
  let own := Url.pathAfterAuthority true (Url.splitPath (Url.afterAuthority text)).1
  let long := String.ofList (List.replicate (own.text.length + 1) 'a')
  have hplain : Url.IsPlain long.toList := by
    rw [String.toList_ofList]
    exact .replicate own.text.length
  obtain ⟨url, hurl, -, hsuffix⟩ := hreaches long hplain
  rw [Url.parse, endpointUrl_of_isPlain hplain, hbelow _ hplain.visible] at hurl
  have hpath : url.path = own := Url.path_after_mark hweb.isSpecial hmark htext hurl
  have hlength := hsuffix.length_le
  rw [hpath, List.length_cons, String.toList_ofList, List.length_replicate] at hlength
  omega

theorem takesPaths_of_reaches (hroot : config.rootUrl = .ok api)
    (hweb : Url.IsWeb api.scheme)
    (hreaches : ∀ path : String, Url.IsPlain path.toList → config.Reaches api path) :
    config.TakesPaths := by
  have hplain : Url.IsPlain "a".toList := .replicate 0
  obtain ⟨text, hbelow, ⟨slashes, hslash⟩, -⟩ := exists_text hroot hweb
  obtain ⟨url, hurl, -, -⟩ := hreaches "a" hplain
  rw [Url.parse, endpointUrl_of_isPlain hplain, hbelow _ hplain.visible] at hurl
  -- Whether there is a URL is up to the authority, which every path leaves alone.
  have hfollowed := Url.afterSlashes_below_isOk hweb.isSpecial slashes hurl
  rw [← hslash] at hfollowed
  exact ⟨not_mem_of_reaches hroot hweb hreaches (.inl rfl),
    not_mem_of_reaches hroot hweb hreaches (.inr rfl), hfollowed⟩

theorem isPlain_name (endpoint : Endpoint) : Url.IsPlain endpoint.name.toList := by
  have hname : endpoint.name.toList.all Url.isPlainChar = true ∧
      Url.cutAt (· = '/') endpoint.name.toList = [endpoint.name.toList] ∧
      endpoint.name.toList ≠ [] := by
    cases endpoint <;> decide
  obtain ⟨hchars, hcut, hne⟩ := hname
  intro segment hsegment
  rw [hcut, List.mem_singleton] at hsegment
  rw [hsegment]
  exact ⟨hne, fun c hc => List.all_eq_true.1 hchars c hc⟩

end Config

namespace Wire.Request

variable {request : Wire.Request} {url : Url} {name : List Char}

/-- The last segment of a path that ends with a name after a slash. -/
theorem lastSegment_of_suffix (before : List Char) (hne : name ≠ []) (hslash : '/' ∉ name) :
    lastSegment (String.ofList (before ++ '/' :: name)) = String.ofList name := by
  have hchars : ∀ c ∈ name.reverse, c ≠ '/' := by
    rintro c hc rfl
    exact hslash (List.mem_reverse.1 hc)
  obtain ⟨c, rest, hname⟩ := List.exists_cons_of_ne_nil (mt List.reverse_eq_nil_iff.1 hne)
  have hfirst : c ≠ '/' := hchars c (by rw [hname]; exact List.mem_cons_self)
  have hdrop : (name.reverse ++ '/' :: before.reverse).dropWhile (· = '/') =
      name.reverse ++ '/' :: before.reverse := by
    rw [hname, List.cons_append, List.dropWhile_cons_of_neg (by simpa using hfirst)]
  have htake : (name.reverse ++ '/' :: before.reverse).takeWhile (· ≠ '/') =
      name.reverse := by
    rw [Url.takeWhile_append_cons (by decide), List.takeWhile_eq_self_iff]
    simpa using hchars
  have hreverse : (before ++ '/' :: name).reverse =
      name.reverse ++ '/' :: before.reverse := by simp
  rw [lastSegment, String.toList_ofList, hreverse, hdrop, htake, List.reverse_reverse]

theorem targets_of_suffix (hurl : Url.parse request.url = .ok url) {endpoint : String}
    (hne : endpoint.toList ≠ []) (hslash : '/' ∉ endpoint.toList)
    (hsuffix : '/' :: endpoint.toList <:+ url.path.text) :
    request.targets endpoint = true := by
  obtain ⟨before, hpath⟩ := hsuffix
  have hlast := lastSegment_of_suffix before hne hslash
  have hread : request.path? = some (String.ofList (before ++ '/' :: endpoint.toList)) := by
    rw [path?, Url.parse?, hurl, hpath]
    rfl
  rw [targets, hread]
  simp only [hlast, String.ofList_toList, decide_true]

end Wire.Request

/-- **Which endpoints are reached.**  The root of a valid configuration takes paths
exactly if every plain path is reached below it; and then every request for a credential
targets its endpoint. -/
theorem Config.reaches_endpoints (config : Config) (hvalid : config.validate = .ok ()) :
    ∃ api, config.rootUrl = .ok api ∧
      (config.TakesPaths ↔
        ∀ path : String, Url.IsPlain path.toList → config.Reaches api path) ∧
      (config.TakesPaths → ∀ endpoint grant request,
        config.grantRequest endpoint grant = .ok request →
          request.targets endpoint.name = true) := by
  obtain ⟨api, hroot, hweb⟩ := rootUrl_of_validate hvalid
  refine ⟨api, hroot, ⟨fun htakes path hplain => htakes.reaches hroot hweb hplain,
    takesPaths_of_reaches hroot hweb⟩, ?_⟩
  intro htakes endpoint grant request hrequest
  have hplain := isPlain_name endpoint
  obtain ⟨url, hurl, -, hsuffix⟩ := htakes.reaches hroot hweb hplain
  rw [← grantRequest_url hrequest] at hurl
  have hslash : '/' ∉ endpoint.name.toList := by cases endpoint <;> decide
  have hne : endpoint.name.toList ≠ [] := by cases endpoint <;> decide
  exact Wire.Request.targets_of_suffix hurl hne hslash hsuffix

/-- A root with a user, a port and a slash at its end. -/
theorem Config.reaches_endpoints_user :
    let config : Config :=
      { apiUrl := " https:user@api.test:8443/v1/ ",
        login := ⟨"user", "secret", "id", "key"⟩ }
    config.validate = .ok () ∧
      ∃ api, config.rootUrl = .ok api ∧
        (config.TakesPaths ↔
          ∀ path : String, Url.IsPlain path.toList → config.Reaches api path) ∧
        (config.TakesPaths → ∀ endpoint grant request,
          config.grantRequest endpoint grant = .ok request →
            request.targets endpoint.name = true) := by
  intro config
  have hvalid : config.validate = .ok () := by decide +kernel +zetaReduce
  exact ⟨hvalid, reaches_endpoints config hvalid⟩

/-- The query of a root takes in what is put after it, and the login goes to the root. -/
theorem Config.reaches_endpoints_query :
    let config : Config :=
      { apiUrl := "https://api.test/v1?key=1", login := ⟨"user", "secret", "id", "key"⟩ }
    config.validate = .ok () ∧ ∀ api, ¬config.Reaches api Endpoint.app.name := by
  intro config
  refine ⟨by decide +kernel +zetaReduce, fun api hreaches => ?_⟩
  obtain ⟨url, hurl, -, hsuffix⟩ := hreaches
  have hpath : (Url.parse (config.endpointUrl Endpoint.app.name)).map (·.path.text) =
      .ok "/v1".toList := by
    decide +kernel +zetaReduce
  rw [hurl] at hpath
  have htext : url.path.text = "/v1".toList := Except.ok.inj hpath
  rw [htext] at hsuffix
  exact absurd hsuffix (by decide)

end BearerClient
