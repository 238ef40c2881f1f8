import BearerClient.Proofs.Config.RoundTrip
import BearerClient.Proofs.Toml.Writing

/-!
# What configuration files say

A file in either format puts data under names, some of them in a table of their own.  Which
configuration that is depends on the data alone: not on the format, not on the layout, and not on
the order in which they stand.
-/

namespace BearerClient

/-- A value that a file puts under a name. -/
inductive Datum where
  | text (content : String)
  | number (n : Nat)
  | truth (value : Bool)

/-- What a file puts under a name: a value, or a table of values. -/
inductive Item where
  | datum (value : Datum)
  | table (parts : List (String × Datum))

/-- What a file says. -/
abbrev Sheet := List (String × Item)

/-! ## Two formats -/

def Datum.json : Datum → Json.Value
  | .text content => .string content
  | .number n => .int n
  | .truth value => .bool value

def Datum.toml : Datum → Toml.Value
  | .text content => .text content
  | .number n => .scalar (.integer n)
  | .truth value => .scalar (.boolean value)

def Item.json : Item → Json.Value
  | .datum value => value.json
  | .table parts => .object (parts.map fun part => (part.1, part.2.json))

def Item.toml : Item → Toml.Value
  | .datum value => value.toml
  | .table parts => .table .header (parts.map fun part => (part.1, part.2.toml))

namespace Sheet

/-- No name comes twice, in the sheet or in a table of it. -/
structure Distinct (sheet : Sheet) : Prop where
  names : (sheet.map Prod.fst).Nodup
  inside : ∀ name parts, (name, .table parts) ∈ sheet → (parts.map Prod.fst).Nodup

/-- A text says what is on a sheet, in any layout and order. -/
inductive SaidBy (sheet : Sheet) : Surroundings.Format → String → Prop where
  /-- an object of JSON -/
  | json {text : String} {members : List (String × Json.Value)}
      (hparse : Json.parse (Text.utf8 text) = .ok (.object members))
      (horder : members.Perm (sheet.map fun entry => (entry.1, entry.2.json))) :
      SaidBy sheet .json text
  /-- entries and tables of TOML -/
  | toml {text : String} {lines : List Toml.Line} {outline : Toml.Outline}
      (hdocument : Toml.Document lines text.toList)
      (hlines : lines.flatMap Toml.Line.statements = outline.statements)
      (horder : outline.members.Perm (sheet.map fun entry => (entry.1, entry.2.toml))) :
      SaidBy sheet .toml text

/-! ## Settings -/

/-- What stands under a name, where nothing else would do; or nothing, where there is a default. -/
inductive Sets {α : Type} (sheet : Sheet) (name : String) (Reads : Item → α → Prop)
    (default : Option α) (a : α) : Prop where
  | given {item : Item} (hitem : (name, item) ∈ sheet) (hreads : Reads item a)
  | absent (hname : name ∉ sheet.map Prod.fst) (hdefault : default = some a)

end Sheet

namespace Item

def IsText (item : Item) (content : String) : Prop := item = .datum (.text content)

/-- A number of so many bits, and what is made of it. -/
def IsNumber {α : Type} (bits : Nat) (make : Nat → α) (item : Item) (a : α) : Prop :=
  ∃ n, item = .datum (.number n) ∧ n < Nat.pow 2 bits ∧ make n = a

theorem isNumber_number {α : Type} {bits n : Nat} {make : Nat → α} {a : α} :
    IsNumber bits make (.datum (.number n)) a ↔ n < Nat.pow 2 bits ∧ make n = a := by
  simp [IsNumber]

/-- A table with the four parts of a login. -/
def IsLogin (item : Item) (login : Login) : Prop :=
  ∃ parts, item = .table parts ∧ ("username", .text login.username) ∈ parts ∧
    ("password", .text login.password) ∈ parts ∧ ("client_id", .text login.clientId) ∈ parts ∧
    ("client_secret", .text login.clientSecret) ∈ parts

end Item

/-- A sheet gives a configuration: the root of the API and the login stand there, and of the other
settings each that is not the default. -/
structure Sheet.Gives (sheet : Sheet) (config : Config) : Prop where
  apiUrl : sheet.Sets "api_url" Item.IsText none config.apiUrl
  login : sheet.Sets "credentials" Item.IsLogin none config.login
  userAgent : sheet.Sets "user_agent" Item.IsText (some "graphlink 0.1.0") config.userAgent
  maxRetries : sheet.Sets "max_retries" (Item.IsNumber 32 UInt32.ofNat) (some 3) config.maxRetries
  requestTimeout : sheet.Sets "request_timeout_ms" (Item.IsNumber 64 Duration.ofMillis)
    (some (.ofMillis 30000)) config.requestTimeout
  connectTimeout : sheet.Sets "connect_timeout_ms" (Item.IsNumber 64 Duration.ofMillis)
    (some (.ofMillis 10000)) config.connectTimeout
  refreshMargin : sheet.Sets "refresh_offset_ms" (Item.IsNumber 64 Duration.ofMillis)
    (some (.ofMillis 30000)) config.refreshMargin
  freshBuffer : sheet.Sets "fresh_buffer_ms" (Item.IsNumber 64 Duration.ofMillis)
    (some (.ofMillis 2000)) config.freshBuffer
  idleConnections : sheet.Sets "pool_max_idle_per_host" (Item.IsNumber 64 UInt64.ofNat) (some 8)
    config.idleConnections

/-! ## Looking up -/

namespace Sheet

variable {α : Type} {sheet : Sheet} {name : String} {Reads : Item → α → Prop}
  {default : Option α} {a : α}

theorem exists_item (hname : name ∈ sheet.map Prod.fst) : ∃ item, (name, item) ∈ sheet := by
  obtain ⟨⟨_, item⟩, hitem, rfl⟩ := List.mem_map.1 hname
  exact ⟨item, hitem⟩

theorem eq_of_mem {β : Type} {entries : List (String × β)} (hnames : (entries.map Prod.fst).Nodup)
    {item other : β} (hitem : (name, item) ∈ entries) (hother : (name, other) ∈ entries) :
    item = other :=
  (Prod.ext_iff.1 (List.inj_on_of_nodup_map hnames hitem hother rfl)).2

theorem sets_iff_of_mem (hnames : (sheet.map Prod.fst).Nodup) {item : Item}
    (hitem : (name, item) ∈ sheet) : sheet.Sets name Reads default a ↔ Reads item a := by
  constructor
  · rintro (⟨hother, hreads⟩ | ⟨hname, -⟩)
    · rwa [eq_of_mem hnames hitem hother]
    · exact absurd (List.mem_map_of_mem hitem) hname
  · exact .given hitem

theorem sets_iff_of_not_mem (hname : name ∉ sheet.map Prod.fst) :
    sheet.Sets name Reads default a ↔ default = some a := by
  constructor
  · rintro (⟨hitem, -⟩ | ⟨-, hdefault⟩)
    · exact absurd (List.mem_map_of_mem hitem) hname
    · exact hdefault
  · exact .absent hname

/-- What is made of the number, or of its default. -/
theorem sets_map_iff {β : Type} {bits : Nat} {make : Nat → β} {n : Nat} {b : β} :
    (∃ m, sheet.Sets name (Item.IsNumber bits id) (some n) m ∧ make m = b) ↔
      sheet.Sets name (Item.IsNumber bits make) (some (make n)) b := by
  constructor
  · rintro ⟨m, ⟨hitem, _, hnumber, hrange, rfl⟩ | ⟨hname, hdefault⟩, rfl⟩
    · exact .given hitem ⟨_, hnumber, hrange, rfl⟩
    · cases hdefault
      exact .absent hname rfl
  · rintro (⟨hitem, m, hnumber, hrange, rfl⟩ | ⟨hname, hdefault⟩)
    · exact ⟨m, .given hitem ⟨m, hnumber, hrange, rfl⟩, rfl⟩
    · exact ⟨n, .absent hname rfl, Option.some.inj hdefault⟩

/-- The parts of a table as a sheet of their own. -/
def ofParts (parts : List (String × Datum)) : Sheet := parts.map fun part => (part.1, .datum part.2)

theorem names_ofParts (parts : List (String × Datum)) :
    (ofParts parts).map Prod.fst = parts.map Prod.fst := by
  rw [ofParts, List.map_map]
  rfl

theorem sets_ofParts {parts : List (String × Datum)} {content : String} :
    (ofParts parts).Sets name Item.IsText none content ↔ (name, .text content) ∈ parts := by
  constructor
  · rintro (⟨hitem, rfl⟩ | ⟨-, hdefault⟩)
    · obtain ⟨⟨_, datum⟩, hpart, hsame⟩ := List.mem_map.1 hitem
      cases hsame
      exact hpart
    · cases hdefault
  · exact fun hpart => .given (List.mem_map.2 ⟨_, hpart, rfl⟩) rfl

/-! ## JSON -/

section Json

open Json

variable {members : List (String × Value)}

theorem distinct_json (hnames : (sheet.map Prod.fst).Nodup)
    (horder : members.Perm (sheet.map fun entry => (entry.1, entry.2.json))) :
    Json.Distinct members := by
  refine Json.Distinct.perm ?_ horder
  rw [Json.Distinct, List.map_map]
  exact hnames

/-- A field of a record is given what the sheet says under its name. -/
theorem given_iff (member : Member α) (hnames : (sheet.map Prod.fst).Nodup)
    (horder : members.Perm (sheet.map fun entry => (entry.1, entry.2.json)))
    (hreads : ∀ item, (member.name, item) ∈ sheet →
      (member.decoder.ofValue item.json = .ok a ↔ Reads item a)) :
    Record.Given member (Value.lookup members member.name) a ↔
      sheet.Sets member.name Reads member.absent a := by
  by_cases hname : member.name ∈ sheet.map Prod.fst
  · obtain ⟨item, hitem⟩ := exists_item hname
    have hfound : Value.lookup members member.name = some item.json :=
      (distinct_json hnames horder).lookup_eq_some_iff.2
        (horder.mem_iff.2 (List.mem_map.2 ⟨_, hitem, rfl⟩))
    rw [hfound, sets_iff_of_mem hnames hitem]
    exact hreads item hitem
  · have hfound : Value.lookup members member.name = none := by
      rw [Value.lookup_eq_none_iff, (horder.map Prod.fst).mem_iff, List.map_map]
      exact hname
    rw [hfound, sets_iff_of_not_mem hname]
    exact Iff.rfl

theorem text_ofValue {item : Item} {content : String} :
    Decoder.text.ofValue item.json = .ok content ↔ item.IsText content := by
  rcases item with (_ | _ | _) | _ <;>
    simp [Decoder.text, Decoder.scalar, Item.json, Datum.json, Item.IsText, Value.int]

theorem number_ofValue {bits : Nat} {make : Nat → α} {item : Item} :
    ((Decoder.natural bits).map make).ofValue item.json = .ok a ↔ item.IsNumber bits make a := by
  rcases item with (_ | n | _) | _
  case datum.number =>
    by_cases hrange : n < Nat.pow 2 bits
    · rw [Item.json, Datum.json, Decoder.map_ofValue (Decoder.natural_ofValue hrange),
        Item.isNumber_number, and_iff_right hrange, Except.ok.injEq]
    · have hbeyond : ¬ ((0 : Int) ≤ n ∧ (n : Int) ≤ (Nat.pow 2 bits - 1 : Nat)) := by
        have hpos : 0 < Nat.pow 2 bits := Nat.pow_pos (by decide)
        omega
      have hfault : (Decoder.natural bits).ofValue (.int n) = .error .invalidValue :=
        congrArg (Except.map Int.toNat) (if_neg hbeyond)
      change ((Decoder.natural bits).ofValue (.int n)).bind _ = _ ↔ _
      rw [hfault, Item.isNumber_number]
      exact ⟨nofun, fun hnumber => absurd hnumber.1 hrange⟩
  all_goals exact ⟨nofun, nofun⟩

theorem login_ofValue {item : Item} {login : Login}
    (hinside : ∀ parts, item = .table parts → (parts.map Prod.fst).Nodup) :
    Login.decoder.ofValue item.json = .ok login ↔ item.IsLogin login := by
  rcases item with (_ | _ | _) | parts
  case table =>
    have hnames := hinside parts rfl
    rw [← names_ofParts] at hnames
    have horder : (parts.map fun part => (part.1, part.2.json)).Perm
        ((ofParts parts).map fun entry => (entry.1, entry.2.json)) := by
      rw [ofParts, List.map_map]
      rfl
    have hpart (name content : String) : Record.Given (.required name .text)
        (Value.lookup (parts.map fun part => (part.1, part.2.json)) name) content ↔
          (name, .text content) ∈ parts :=
      (given_iff (.required name .text) hnames horder fun _ _ => text_ofValue).trans sets_ofParts
    refine (Record.map_ofValue_eq_ok (by decide) (distinct_json hnames horder)).trans ?_
    constructor
    · rintro ⟨⟨username, password, clientId, clientSecret, ⟨⟩⟩, ⟨hname, hpassword, hid, hsecret, -⟩,
        rfl⟩
      exact ⟨parts, rfl, (hpart _ _).1 hname, (hpart _ _).1 hpassword, (hpart _ _).1 hid,
        (hpart _ _).1 hsecret⟩
    · rintro ⟨_, ⟨⟩, hname, hpassword, hid, hsecret⟩
      exact ⟨(login.username, login.password, login.clientId, login.clientSecret, ()),
        ⟨(hpart _ _).2 hname, (hpart _ _).2 hpassword, (hpart _ _).2 hid, (hpart _ _).2 hsecret,
          trivial⟩, rfl⟩
  all_goals exact ⟨nofun, nofun⟩

end Json

/-! ## TOML -/

section Toml

open Toml

variable {members : Members}

/-- A setting is what the sheet says under its name. -/
theorem setting_eq_ok_iff (hnames : (sheet.map Prod.fst).Nodup)
    (horder : members.Perm (sheet.map fun entry => (entry.1, entry.2.toml)))
    {read : Value → Option α}
    (hreads : ∀ item, (name, item) ∈ sheet → (read item.toml = some a ↔ Reads item a)) :
    setting members name read default = .ok a ↔ sheet.Sets name Reads default a := by
  by_cases hname : name ∈ sheet.map Prod.fst
  · obtain ⟨item, hitem⟩ := exists_item hname
    have hkeys : (members.map Prod.fst).Nodup := by
      rw [(horder.map Prod.fst).nodup_iff, List.map_map]
      exact hnames
    have hfound : members.lookup name = some item.toml :=
      lookup_eq_some hkeys (horder.mem_iff.2 (List.mem_map.2 ⟨_, hitem, rfl⟩))
    unfold setting
    rw [hfound, sets_iff_of_mem hnames hitem, ← hreads item hitem]
    cases hread : read item.toml <;> simp [hread]
  · have hfound : members.lookup name = none := by
      refine lookup_eq_none ?_
      rw [(horder.map Prod.fst).mem_iff, List.map_map]
      exact hname
    unfold setting
    rw [hfound, sets_iff_of_not_mem hname]
    cases default <;> simp

theorem text?_toml {item : Item} {content : String} :
    item.toml.text? = some content ↔ item.IsText content := by
  rcases item with (_ | _ | _) | _ <;> simp [Item.toml, Datum.toml, Item.IsText, Value.text?]

theorem natural?_toml {bits : Nat} {make : Nat → α} {item : Item} :
    (item.toml.natural? bits).map make = some a ↔ item.IsNumber bits make a := by
  rcases item with (_ | _ | _) | _ <;>
    simp [Item.toml, Datum.toml, Item.IsNumber, Value.natural?]

theorem login_toml {item : Item} {login : Login}
    (hinside : ∀ parts, item = .table parts → (parts.map Prod.fst).Nodup) :
    Login.ofToml? item.toml = some login ↔ item.IsLogin login := by
  rcases item with (_ | _ | _) | parts
  case table =>
    have hnames := hinside parts rfl
    rw [← names_ofParts] at hnames
    have horder : (parts.map fun part => (part.1, part.2.toml)).Perm
        ((ofParts parts).map fun entry => (entry.1, entry.2.toml)) := by
      rw [ofParts, List.map_map]
      rfl
    have hpart (name content : String) :
        setting (parts.map fun part => (part.1, part.2.toml)) name Value.text? none = .ok content ↔
          (name, .text content) ∈ parts :=
      (setting_eq_ok_iff hnames horder fun _ _ => text?_toml).trans sets_ofParts
    have htoOption (taken : Except Fault Login) :
        taken.toOption = some login ↔ taken = .ok login := by
      cases taken <;> simp [Except.toOption]
    refine (htoOption (Login.ofMembers _)).trans ?_
    simp only [Login.ofMembers, Json.except_bind_eq_ok, hpart]
    constructor
    · rintro ⟨username, hname, password, hpassword, clientId, hid, clientSecret, hsecret, ⟨⟩⟩
      exact ⟨parts, rfl, hname, hpassword, hid, hsecret⟩
    · rintro ⟨_, ⟨⟩, hname, hpassword, hid, hsecret⟩
      exact ⟨_, hname, _, hpassword, _, hid, _, hsecret, rfl⟩
  all_goals exact ⟨nofun, nofun⟩

end Toml

/-! ## Configurations -/

variable {config : Config} {text : String}

theorem Distinct.inside_item (hdistinct : sheet.Distinct) {item : Item}
    (hitem : (name, item) ∈ sheet) (parts : List (String × Datum)) (htable : item = .table parts) :
    (parts.map Prod.fst).Nodup :=
  hdistinct.inside name parts (htable ▸ hitem)

theorem run_eq_ok_iff (hdistinct : sheet.Distinct) {members : List (String × Json.Value)}
    (hparse : Json.parse (Text.utf8 text) = .ok (.object members))
    (horder : members.Perm (sheet.map fun entry => (entry.1, entry.2.json))) :
    Config.decoder.run (Text.utf8 text) = .ok config ↔ sheet.Gives config := by
  obtain ⟨rest, hread, hend⟩ := Json.readAll_eq_ok_iff.1 hparse
  have hagrees := (Config.decoder_lawful.agrees _ _ _ _ hread).readAll_eq_ok_iff (a := config) hend
  have htext (name : String) (content : String) (absent short : Option String) :
      Json.Record.Given ⟨name, .text, absent, short⟩ (Json.Value.lookup members name) content ↔
        sheet.Sets name Item.IsText absent content :=
    given_iff _ hdistinct.names horder fun _ _ => text_ofValue
  have hnumber {α : Type} (name : String) (bits : Nat) (make : Nat → α) (default a : α) :
      Json.Record.Given (.withDefault name ((Json.Decoder.natural bits).map make) default)
          (Json.Value.lookup members name) a ↔
        sheet.Sets name (Item.IsNumber bits make) (some default) a :=
    given_iff _ hdistinct.names horder fun _ _ => number_ofValue
  have hlogin (login : Login) :
      Json.Record.Given (.required "credentials" Login.decoder)
          (Json.Value.lookup members "credentials") login ↔
        sheet.Sets "credentials" Item.IsLogin none login :=
    given_iff _ hdistinct.names horder fun item hitem => login_ofValue (hdistinct.inside_item hitem)
  rw [Json.Decoder.run, hagrees]
  refine (Json.Record.map_ofValue_eq_ok (by decide)
    (distinct_json hdistinct.names horder)).trans ?_
  constructor
  · rintro ⟨_, ⟨hurl, hcredentials, hagent, hretries, hrequest, hconnect, hmargin, hbuffer, hidle,
      -⟩, rfl⟩
    exact ⟨(htext _ _ _ _).1 hurl, (hlogin _).1 hcredentials, (htext _ _ _ _).1 hagent,
      (hnumber _ _ _ _ _).1 hretries, (hnumber _ _ _ _ _).1 hrequest,
      (hnumber _ _ _ _ _).1 hconnect, (hnumber _ _ _ _ _).1 hmargin,
      (hnumber _ _ _ _ _).1 hbuffer, (hnumber _ _ _ _ _).1 hidle⟩
  · intro hgives
    exact ⟨(config.apiUrl, config.login, config.userAgent, config.maxRetries,
      config.requestTimeout, config.connectTimeout, config.refreshMargin, config.freshBuffer,
      config.idleConnections, ()), ⟨(htext _ _ _ _).2 hgives.apiUrl, (hlogin _).2 hgives.login,
      (htext _ _ _ _).2 hgives.userAgent, (hnumber _ _ _ _ _).2 hgives.maxRetries,
      (hnumber _ _ _ _ _).2 hgives.requestTimeout, (hnumber _ _ _ _ _).2 hgives.connectTimeout,
      (hnumber _ _ _ _ _).2 hgives.refreshMargin, (hnumber _ _ _ _ _).2 hgives.freshBuffer,
      (hnumber _ _ _ _ _).2 hgives.idleConnections, trivial⟩, rfl⟩

theorem outline_distinct (hdistinct : sheet.Distinct) {outline : Toml.Outline}
    (horder : outline.members.Perm (sheet.map fun entry => (entry.1, entry.2.toml))) :
    outline.Distinct where
  keys := by
    rw [(horder.map Prod.fst).nodup_iff, List.map_map]
    exact hdistinct.names
  inside table htable := by
    have hmember : (table.1, .table .header table.2) ∈ outline.members :=
      List.mem_append_right _ (List.mem_map.2 ⟨table, htable, rfl⟩)
    obtain ⟨⟨name, item⟩, hitem, hsame⟩ := List.mem_map.1 (horder.mem_iff.1 hmember)
    rcases item with (_ | _ | _) | parts
    case table =>
      have hparts : parts.map (fun part => (part.1, part.2.toml)) = table.2 :=
        (Toml.Value.table.inj (Prod.mk.inj hsame).2).2
      rw [← hparts, List.map_map]
      exact hdistinct.inside name parts hitem
    all_goals cases hsame

theorem ofMembers_eq_ok_iff (hdistinct : sheet.Distinct) {members : Toml.Members}
    (horder : members.Perm (sheet.map fun entry => (entry.1, entry.2.toml))) :
    Config.ofMembers members = .ok config ↔ sheet.Gives config := by
  have htext (name : String) (default : Option String) (content : String) :
      Toml.setting members name Toml.Value.text? default = .ok content ↔
        sheet.Sets name Item.IsText default content :=
    setting_eq_ok_iff hdistinct.names horder fun _ _ => text?_toml
  have hlogin (login : Login) :
      Toml.setting members "credentials" Login.ofToml? none = .ok login ↔
        sheet.Sets "credentials" Item.IsLogin none login :=
    setting_eq_ok_iff hdistinct.names horder fun item hitem =>
      login_toml (hdistinct.inside_item hitem)
  have hnatural (name : String) (bits default n : Nat) :
      Toml.setting members name (Toml.Value.natural? bits) (some default) = .ok n ↔
        sheet.Sets name (Item.IsNumber bits id) (some default) n :=
    setting_eq_ok_iff hdistinct.names horder fun _ _ => by rw [← natural?_toml, Option.map_id, id]
  have hduration (name : String) (default d : Duration) :
      Toml.setting members name (fun value => (value.natural? 64).map Duration.ofMillis)
          (some default) = .ok d ↔
        sheet.Sets name (Item.IsNumber 64 Duration.ofMillis) (some default) d :=
    setting_eq_ok_iff hdistinct.names horder fun _ _ => natural?_toml
  simp only [Config.ofMembers, Json.except_bind_eq_ok, htext, hlogin, hnatural, hduration]
  constructor
  · rintro ⟨apiUrl, hurl, login, hcredentials, agent, hagent, retries, hretries, request, hrequest,
      connect, hconnect, margin, hmargin, buffer, hbuffer, idle, hidle, ⟨⟩⟩
    exact ⟨hurl, hcredentials, hagent, sets_map_iff.1 ⟨retries, hretries, rfl⟩, hrequest, hconnect,
      hmargin, hbuffer, sets_map_iff.1 ⟨idle, hidle, rfl⟩⟩
  · intro hgives
    obtain ⟨retries, hretries, hsame⟩ : ∃ n, sheet.Sets "max_retries" (Item.IsNumber 32 id)
        (some 3) n ∧ UInt32.ofNat n = config.maxRetries := sets_map_iff.2 hgives.maxRetries
    obtain ⟨idle, hidle, hmost⟩ : ∃ n, sheet.Sets "pool_max_idle_per_host" (Item.IsNumber 64 id)
        (some 8) n ∧ UInt64.ofNat n = config.idleConnections :=
      sets_map_iff.2 hgives.idleConnections
    refine ⟨_, hgives.apiUrl, _, hgives.login, _, hgives.userAgent, retries, hretries, _,
      hgives.requestTimeout, _, hgives.connectTimeout, _, hgives.refreshMargin, _,
      hgives.freshBuffer, idle, hidle, ?_⟩
    rw [hsame, hmost]
    rfl

theorem ofToml_eq_ok_iff (hdistinct : sheet.Distinct) {lines : List Toml.Line}
    {outline : Toml.Outline} (hdocument : Toml.Document lines text.toList)
    (hlines : lines.flatMap Toml.Line.statements = outline.statements)
    (horder : outline.members.Perm (sheet.map fun entry => (entry.1, entry.2.toml))) :
    Config.ofToml text = .ok config ↔ sheet.Gives config := by
  have hread := hdocument.parse hlines (outline_distinct hdistinct horder)
  rw [String.ofList_toList] at hread
  rw [Config.ofToml, hread]
  exact ofMembers_eq_ok_iff hdistinct horder

/-- What a file of either format is read as: the configuration that its data give. -/
theorem SaidBy.parseConfig_eq_ok_iff {format : Surroundings.Format}
    (hsaid : sheet.SaidBy format text) (hdistinct : sheet.Distinct) :
    Surroundings.parseConfig text format = .ok config ↔ sheet.Gives config := by
  cases hsaid with
  | json hparse horder =>
      rw [← run_eq_ok_iff hdistinct hparse horder, Surroundings.parseConfig]
      cases Config.decoder.run (Text.utf8 text) <;> simp
  | toml hdocument hlines horder =>
      rw [← ofToml_eq_ok_iff hdistinct hdocument hlines horder, Surroundings.parseConfig]
      cases Config.ofToml text <;> simp

/-! ## Writing TOML -/

/-- The data of a sheet, and after them its tables. -/
def outline (sheet : Sheet) : Toml.Outline where
  entries := sheet.filterMap fun
    | (name, .datum value) => some (name, value.toml)
    | (_, .table _) => none
  tables := sheet.filterMap fun
    | (_, .datum _) => none
    | (name, .table parts) => some (name, parts.map fun part => (part.1, part.2.toml))

/-- A sheet as a document of TOML. -/
def toToml (sheet : Sheet) : String := String.ofList (Toml.write sheet.outline.lines)

theorem outline_members (sheet : Sheet) :
    sheet.outline.members.Perm (sheet.map fun entry => (entry.1, entry.2.toml)) := by
  induction sheet with
  | nil => exact .refl _
  | cons entry sheet ih =>
      obtain ⟨name, value | parts⟩ := entry
      · exact ih.cons _
      · exact List.perm_middle.trans (ih.cons _)

end Sheet

/-- A value that TOML has room for. -/
def Datum.Fits : Datum → Prop
  | .number n => n < Nat.pow 2 128
  | _ => True

def Item.Fits : Item → Prop
  | .datum value => value.Fits
  | .table parts => ∀ part ∈ parts, part.2.Fits

theorem Datum.Fits.writes {value : Datum} (hfits : value.Fits) :
    value.toml.Writes value.toml.write := by
  cases value with
  | text content => exact .text (Toml.writes_writeText content)
  | number n =>
      have hdigits := Text.denotes_toDigits n
      exact .natural (.digits (Toml.grouped_self hdigits.nonempty hdigits.isDigit)) hfits
  | truth value => exact .boolean value

namespace Sheet

variable {sheet : Sheet}

theorem plain_lines (hfits : ∀ entry ∈ sheet, entry.2.Fits) :
    ∀ line ∈ sheet.outline.lines, line.Plain := by
  intro line hline
  rcases List.mem_append.1 hline with hline | hline
  · obtain ⟨member, hmember, rfl⟩ := List.mem_map.1 hline
    obtain ⟨⟨name, value | parts⟩, hentry, hsome⟩ := List.mem_filterMap.1 hmember
    · cases hsome
      exact (hfits _ hentry).writes
    · cases hsome
  · obtain ⟨table, htable, hline⟩ := List.mem_flatMap.1 hline
    obtain ⟨⟨name, value | parts⟩, hentry, hsome⟩ := List.mem_filterMap.1 htable
    · cases hsome
    · cases hsome
      rcases List.mem_cons.1 hline with rfl | hline
      · trivial
      · obtain ⟨member, hmember, rfl⟩ := List.mem_map.1 hline
        obtain ⟨part, hpart, rfl⟩ := List.mem_map.1 hmember
        exact (hfits _ hentry part hpart).writes

/-- Every sheet that TOML has room for can be written. -/
theorem saidBy_toToml (hfits : ∀ entry ∈ sheet, entry.2.Fits) :
    sheet.SaidBy .toml sheet.toToml := by
  refine .toml ?_ sheet.outline.statements_lines sheet.outline_members
  rw [toToml, String.toList_ofList]
  exact Toml.document_write (plain_lines hfits)

end Sheet

/-! ## Sheets of configurations -/

namespace Config

open Json

/-- All settings of a configuration. -/
def sheet (config : Config) : Sheet :=
  [("api_url", .datum (.text config.apiUrl)),
    ("credentials", .table [("username", .text config.login.username),
      ("password", .text config.login.password), ("client_id", .text config.login.clientId),
      ("client_secret", .text config.login.clientSecret)]),
    ("user_agent", .datum (.text config.userAgent)),
    ("max_retries", .datum (.number config.maxRetries.toNat)),
    ("request_timeout_ms", .datum (.number config.requestTimeout.millis)),
    ("connect_timeout_ms", .datum (.number config.connectTimeout.millis)),
    ("refresh_offset_ms", .datum (.number config.refreshMargin.millis)),
    ("fresh_buffer_ms", .datum (.number config.freshBuffer.millis)),
    ("pool_max_idle_per_host", .datum (.number config.idleConnections.toNat))]

theorem sheet_distinct (config : Config) : config.sheet.Distinct where
  names := by
    change (defaults.sheet.map Prod.fst).Nodup
    decide
  inside name parts hparts := by
    simp only [sheet, List.mem_cons, Prod.mk.injEq, Item.table.injEq, reduceCtorEq, and_false,
      List.not_mem_nil, or_false, false_or] at hparts
    rw [hparts.2]
    change ["username", "password", "client_id", "client_secret"].Nodup
    decide

/-- The text that a configuration is written as says what its settings are. -/
theorem Whole.saidBy_text {config : Config} (hwhole : config.Whole) :
    config.sheet.SaidBy .json config.toJson.text := by
  have hduration {d : Duration} (hd : d.Whole) : durationJson d = .int d.millis := by
    rw [durationJson]
    congr 1
    have hle := hd.millis_le
    omega
  have hmembers : config.toJson =
      .object (config.sheet.map fun entry => (entry.1, entry.2.json)) := by
    rw [toJson, hduration hwhole.requestTimeout, hduration hwhole.connectTimeout,
      hduration hwhole.refreshMargin, hduration hwhole.freshBuffer]
    rfl
  have hparse : parse config.toJson.octets = .ok config.toJson := parse_octets config.toJson_fits
  exact .json (hparse.trans (congrArg _ hmembers)) (.refl _)

theorem Whole.sheet_gives {config : Config} (hwhole : config.Whole) :
    config.sheet.Gives config := by
  have hread : decoder.run (Text.utf8 config.toJson.text) = .ok config := hwhole.roundTrip_eq
  refine (hwhole.saidBy_text.parseConfig_eq_ok_iff config.sheet_distinct).1 ?_
  rw [Surroundings.parseConfig, hread]

theorem Whole.sheet_fits {config : Config} (hwhole : config.Whole) :
    ∀ entry ∈ config.sheet, entry.2.Fits := by
  have hmillis {d : Duration} (hd : d.Whole) : d.millis < Nat.pow 2 128 :=
    Nat.lt_of_le_of_lt hd.millis_le (by decide)
  have hretries : config.maxRetries.toNat < Nat.pow 2 128 :=
    Nat.lt_trans config.maxRetries.toNat_lt (by decide)
  have hidle : config.idleConnections.toNat < Nat.pow 2 128 :=
    Nat.lt_trans config.idleConnections.toNat_lt (by decide)
  simp only [sheet, List.forall_mem_cons, Item.Fits, Datum.Fits]
  exact ⟨trivial, ⟨trivial, trivial, trivial, trivial, nofun⟩, trivial, hretries,
    hmillis hwhole.requestTimeout, hmillis hwhole.connectTimeout, hmillis hwhole.refreshMargin,
    hmillis hwhole.freshBuffer, hidle, nofun⟩

/-- A configuration as a document of TOML. -/
def toToml (config : Config) : String := config.sheet.toToml

theorem Whole.ofToml_toToml {config : Config} (hwhole : config.Whole) :
    ofToml config.toToml = .ok config := by
  have hsaid : config.sheet.SaidBy .toml config.toToml := Sheet.saidBy_toToml hwhole.sheet_fits
  cases hsaid with
  | toml hdocument hlines horder =>
      exact (Sheet.ofToml_eq_ok_iff config.sheet_distinct hdocument hlines horder).2
        hwhole.sheet_gives

end Config

end BearerClient
