import BearerClient.Json.Tagged
import BearerClient.Proofs.Json.Decoding
import BearerClient.Proofs.Json.Members

/-!
# Tagged values by their members

The tag and the content of a tagged value may come in either order, and a content that comes first
is only taken apart once the tag is known.  This makes no difference: where no key comes twice,
the content is what the shape that the tag names takes from it, whatever other members there are.
-/

namespace BearerClient.Json

open Scan

variable {τ α : Type} {depth : Nat} {input mid rest tail : Bytes} {key : String} {value : Value}
  {members : List (String × Value)}

namespace Decoder

/-- A name is read alike as a string, if not as the only key of an object. -/
theorem oneOf_agreesAt (names : List (String × α)) (text : String) :
    (oneOf names).AgreesAt (.string text) := by
  intro depth input rest hread
  cases readValue_eq_ok hread with
  | scalar htail hlist hobject hscalar =>
      cases readScalar_eq_ok hscalar with
      | string hquote hbody =>
          subst hquote
          change Agrees ((peek >>= _) input) _ (variant names text)
          rw [peek_bind, htail]
          change Agrees ((drop >>= _) _) _ _
          rw [drop_bind]
          exact .step hbody (.lift _ _)

end Decoder

namespace Tagged

variable {shape : Tagged τ α}

/-! ## Reading -/

/-- One member of an object that was read beforehand. -/
def take (shape : Tagged τ α) (progress : Progress τ α) (member : String × Value) :
    Except Fault (Progress τ α) :=
  match shape.role? member.1, progress with
  | none, _ => .ok progress
  | some .tag, .nothing => (shape.tag.ofValue member.2).map .tagged
  | some .tag, .held content => do
    let tag ← shape.tag.ofValue member.2
    ((shape.content tag).ofValue content).map .complete
  | some .tag, _ => .error (.duplicateField shape.tagName)
  | some .content, .nothing => .ok (.held member.2)
  | some .content, .tagged tag => ((shape.content tag).ofValue member.2).map .complete
  | some .content, _ => .error (.duplicateField shape.contentName)

def ofMembers (shape : Tagged τ α) (members : List (String × Value)) : Except Fault α := do
  shape.finish (← members.foldlM shape.take .nothing)

/-- The member of this name is read as it is taken from the value. -/
structure AgreesAt (shape : Tagged τ α) (key : String) (value : Value) : Prop where
  tag : key = shape.tagName → shape.tag.AgreesAt value
  content : key = shape.contentName → ∀ tag, (shape.content tag).AgreesAt value

theorem role?_eq_tag (hrole : shape.role? key = some .tag) : key = shape.tagName := by
  unfold role? at hrole
  split at hrole
  · assumption
  · split at hrole <;> cases hrole

theorem role?_eq_content (hrole : shape.role? key = some .content) : key = shape.contentName := by
  unfold role? at hrole
  split at hrole
  · cases hrole
  · split at hrole
    · assumption
    · cases hrole

theorem member_agrees (hshape : shape.AgreesAt key value) (progress : Progress τ α)
    (hcolon : colon input = .ok ((), mid)) (hread : readValue depth mid = .ok (value, rest)) :
    Agrees (shape.member depth key progress input) rest (shape.take progress (key, value)) := by
  have hskip : skipValue mid = .ok ((), rest) :=
    (readValue_passes depth _ mid (Nat.lt_succ_self _)).skips _ _ hread
  unfold member take
  cases hrole : shape.role? key with
  | none => exact .step hcolon (.step hskip (.ok rfl))
  | some role =>
      cases role with
      | tag =>
          have htag := hshape.tag (role?_eq_tag hrole) hread
          cases progress with
          | nothing => exact .step hcolon (htag.map _)
          | held content =>
              refine .step hcolon (htag.bind fun tag _ => ?_)
              cases (shape.content tag).ofValue content with
              | ok value => exact .ok rfl
              | error fault => exact .error rfl
          | tagged tag => exact .error rfl
          | complete value => exact .error rfl
      | content =>
          cases progress with
          | nothing => exact .step hcolon (.step hread (.ok rfl))
          | tagged tag =>
              exact .step hcolon ((hshape.content (role?_eq_content hrole) tag hread).map _)
          | held content => exact .error rfl
          | complete value => exact .error rfl

theorem readObject_agrees (hshape : ∀ member ∈ members, shape.AgreesAt member.1 member.2)
    (hread : readMembers (collect (readValue depth)) [] tail = .ok (members, mid))
    (hclose : closeObject mid = .ok ((), rest)) (b : UInt8) :
    Agrees (shape.readObject depth (b :: tail)) rest (shape.ofMembers members.reverse) := by
  have hmember : ∀ key progress input mid value rest, (key, value) ∈ members →
      colon input = .ok ((), mid) → readValue depth mid = .ok (value, rest) →
        Agrees (shape.member depth key progress input) rest (shape.take progress (key, value)) :=
    fun key progress input mid value rest hmem => member_agrees (hshape _ hmem) progress
  rw [readObject, drop_bind]
  exact readMembers_agrees hmember .nothing shape.finish hread hclose

theorem read_agrees (hshape : ∀ member ∈ members, shape.AgreesAt member.1 member.2)
    (hread : readValue depth input = .ok (.object members, rest)) :
    Agrees (shape.read depth input) rest (shape.ofMembers members) := by
  cases readValue_eq_ok hread with
  | @object inner tail mid rest collected hdepth htail hmembers hclose =>
      subst hdepth
      have hobject : shape.read (inner + 1) input = shape.readObject inner (0x7B :: tail) := by
        unfold read
        rw [peek_bind, htail]
        rfl
      rw [hobject]
      refine readObject_agrees (fun member hmember => ?_) hmembers hclose _
      exact hshape member (List.mem_reverse.2 hmember)
  | scalar htail hlist hobject hscalar => exact (readScalar_isScalar hscalar).1.elim

/-- A text of an object is read as what its members make. -/
theorem readAll_eq_ok_iff (hshape : ∀ member ∈ members, shape.AgreesAt member.1 member.2)
    (hparse : parse input = .ok (.object members)) {a : α} :
    readAll (shape.read maxDepth) input = .ok a ↔ shape.ofMembers members = .ok a := by
  obtain ⟨rest, hread, hend⟩ := Json.readAll_eq_ok_iff.1 hparse
  exact (read_agrees hshape hread).readAll_eq_ok_iff hend

/-! ## Members by name -/

/-- What is known once a tag and a content were found, or one of them, or none. -/
def known (shape : Tagged τ α) : (tag content : Option Value) → Except Fault (Progress τ α)
  | none, none => .ok .nothing
  | none, some content => .ok (.held content)
  | some tag, none => (shape.tag.ofValue tag).map .tagged
  | some tag, some content => do
    let tag ← shape.tag.ofValue tag
    ((shape.content tag).ofValue content).map .complete

/-- By induction from the end, since each member is new to those before it. -/
theorem foldlM_take (hnames : shape.tagName ≠ shape.contentName) (hdistinct : Distinct members) :
    members.foldlM shape.take .nothing =
      shape.known (Value.lookup members shape.tagName)
        (Value.lookup members shape.contentName) := by
  induction members using List.reverseRecOn with
  | nil => rfl
  | append_singleton members last ih =>
      obtain ⟨key, value⟩ := last
      obtain ⟨hmembers, hnew⟩ := distinct_append_iff.1 hdistinct
      rw [List.foldlM_append, ih hmembers, Value.lookup_append_singleton,
        Value.lookup_append_singleton]
      simp only [List.foldlM_cons, List.foldlM_nil, bind_pure, take, role?]
      by_cases htag : key = shape.tagName
      · subst htag
        rw [show Value.lookup members shape.tagName = none from hnew, if_pos rfl, if_pos rfl,
          if_neg hnames]
        cases Value.lookup members shape.contentName <;> rfl
      by_cases hcontent : key = shape.contentName
      · subst hcontent
        rw [show Value.lookup members shape.contentName = none from hnew, if_pos rfl, if_neg htag,
          if_neg htag, if_pos rfl]
        cases Value.lookup members shape.tagName with
        | none => rfl
        | some found =>
            rw [known, known]
            cases shape.tag.ofValue found <;> rfl
      · simp only [if_neg htag, if_neg hcontent]
        exact bind_pure _

/-- What a tag makes of a content, or alone. -/
def Makes (shape : Tagged τ α) (tag : τ) (a : α) : Option Value → Prop
  | some content => (shape.content tag).ofValue content = .ok a
  | none => shape.alone tag = some a

theorem finish_tagged {tag : τ} {a : α} :
    shape.finish (.tagged tag) = .ok a ↔ shape.alone tag = some a := by
  rw [finish]
  cases shape.alone tag <;> simp

/-- A tagged value is read off members with distinct keys name by name. -/
theorem ofMembers_eq_ok_iff (hnames : shape.tagName ≠ shape.contentName)
    (hdistinct : Distinct members) {a : α} :
    shape.ofMembers members = .ok a ↔ ∃ value tag,
      Value.lookup members shape.tagName = some value ∧ shape.tag.ofValue value = .ok tag ∧
      shape.Makes tag a (Value.lookup members shape.contentName) := by
  rw [ofMembers, foldlM_take hnames hdistinct]
  cases Value.lookup members shape.tagName with
  | none => cases Value.lookup members shape.contentName <;> simp [known, finish, bind, Except.bind]
  | some value =>
      have hmade : ∀ found, (shape.known (some value) found >>= shape.finish) = .ok a ↔
          ∃ tag, shape.tag.ofValue value = .ok tag ∧ shape.Makes tag a found := by
        intro found
        cases htag : shape.tag.ofValue value with
        | error fault => cases found <;> simp [known, htag, bind, Except.bind, Except.map]
        | ok tag =>
            cases found with
            | none =>
                have hknown : (shape.known (some value) none >>= shape.finish) =
                    shape.finish (.tagged tag) := by
                  rw [known, htag]
                  rfl
                rw [hknown, finish_tagged]
                simp [Makes]
            | some content =>
                cases hcontent : (shape.content tag).ofValue content with
                | error fault => simp [known, Makes, htag, hcontent, bind, Except.bind, Except.map]
                | ok held =>
                    simp [known, Makes, finish, htag, hcontent, bind, Except.bind, Except.map]
      rw [hmade]
      simp

end Tagged
end BearerClient.Json
