import TezosNode.Proofs.Client.Outcome
import TezosNode.Proofs.Schema.Message

set_option autoImplicit false

/-!
# Client: messages without escape characters

The message of a failed call quotes what the node has sent or what its transport has said.
If neither has an escape character, the message has none: most of it is worded by the client,
and what a schema rejects is shown with its strings quoted.
-/

namespace TezosNode

open Text (escapeCharacter IsEscapeFree)

/-- Nothing in a reply has an escape character: not the text of its fault, nor its content
as a text, nor the document that the content may be, where the character can be written by
its code. -/
def Reply.IsEscapeFree : Reply → Prop
  | .refused fault => Text.IsEscapeFree fault.text
  | .response r =>
    (∀ fault, r.broken = some fault → Text.IsEscapeFree fault.text) ∧
      escapeCharacter ∉ Text.Utf8.decodeLossy r.content ∧
        ∀ v, Json.decode r.content = .ok v → ¬v.Holds escapeCharacter

theorem Fault.isEscapeFree_message {fault : Fault} (hfree : IsEscapeFree fault.text) :
    IsEscapeFree fault.message := by
  -- the fixed wordings are long, so that each part is taken as a list of characters
  unfold Fault.message
  split
  · refine .append (.append (.append (.append (.append ?_ ?_) ?_) ?_) ?_) ?_ <;>
      exact Text.isEscapeFree_ofList (by decide)
  · exact Text.isEscapeFree_ofList (by decide)
  · exact Text.isEscapeFree_ofList (by decide)
  · exact Text.isEscapeFree_ofList (by decide)
  · exact hfree

/-! ## Error payloads -/

namespace ErrorPayload

/-- A text of a record is a text of the element that the record is made of. -/
theorem isEscapeFree_textField {v : Json} (hfree : ¬v.Holds escapeCharacter) (name : String) :
    IsEscapeFree (textField v name) := by
  unfold textField
  split
  · rename_i s hget
    intro hmem
    exact hfree (.of_get? hget (.text hmem))
  · decide

/-- Records without escape characters, as a document without them has them. -/
theorem isEscapeFree_of_recordsOf {v : Json} (hfree : ¬v.Holds escapeCharacter)
    {record : ErrorRecord} (hmem : record ∈ recordsOf v) :
    IsEscapeFree record.kind ∧ IsEscapeFree record.error := by
  cases v with
  | array items =>
    obtain ⟨item, hitem, rfl⟩ := List.mem_map.1 hmem
    have hnone : ¬item.Holds escapeCharacter := fun h => hfree (.element hitem h)
    exact ⟨isEscapeFree_textField hnone "kind", isEscapeFree_textField hnone "error"⟩
  | _ => cases hmem

variable {strict : Bool} {body : Bytes}

/-- The records that a body reports are those of its document. -/
theorem exists_recordsOf_of_classify {records : List ErrorRecord}
    (hclass : classify strict body = .ok (some records)) :
    ∃ v, Json.decode body = .ok v ∧ records = recordsOf v := by
  unfold classify at hclass
  split at hclass
  · have hfound : classifyStrict body = some records := Except.ok.inj hclass
    unfold classifyStrict at hfound
    split at hfound
    · cases hfound
    · rename_i v hdecode
      split at hfound
      · exact ⟨v, hdecode, (Option.some.inj hfound).symm⟩
      · cases hfound
  · unfold classifyLenient at hclass
    split at hclass
    · split at hclass
      · cases hclass
      · rename_i v hdecode
        split at hclass
        · cases hclass
        · split at hclass
          · cases hclass
          · exact ⟨v, hdecode, (Option.some.inj (Except.ok.inj hclass)).symm⟩
    · cases hclass

/-- A body that is taken for an error payload and is none is worded without escape
characters, whatever it holds. -/
theorem isEscapeFree_of_classify {fault : DocumentFault}
    (hclass : classify strict body = .error fault) : IsEscapeFree fault.message := by
  unfold classify at hclass
  split at hclass
  · cases hclass
  · unfold classifyLenient at hclass
    split at hclass
    · split at hclass
      · rename_i jsonFault _
        obtain rfl := Except.error.inj hclass
        exact jsonFault.isEscapeFree_message
      · split at hclass
        · rename_i rejection hreject
          obtain rfl := Except.error.inj hclass
          obtain ⟨hname, hnames⟩ := Schema.isEscapeFree_of_mem_catalogue Schema.errorPayload
            List.mem_cons_self
          exact Schema.isEscapeFree_of_validate hname hnames hreject
        · split at hclass
          · cases hclass
          · cases hclass
    · cases hclass

end ErrorPayload

/-! ## Failures -/

/-- The failure that a reply decides on is worded without escape characters if the reply has
none. -/
theorem Reply.Decides.isEscapeFree_message {strict : Bool} {reply : Reply} {f : Failure}
    (h : reply.Decides strict (.error f)) (hfree : reply.IsEscapeFree) :
    Text.IsEscapeFree f.message := by
  cases h with
  | unsent fault => exact .append (by decide) (Fault.isEscapeFree_message hfree)
  | unread hbroken => exact .append (by decide) (Fault.isEscapeFree_message (hfree.1 _ hbroken))
  | unsuccessful =>
    exact .append (.append (.append (by decide) (Text.isEscapeFree_int _)) (by decide))
      (Text.isEscapeFree_ofList hfree.2.1)
  | malformed _ _ hclass =>
    exact .append (by decide) (ErrorPayload.isEscapeFree_of_classify hclass)
  | reported _ _ hclass =>
    obtain ⟨v, hdecode, hrecords⟩ := ErrorPayload.exists_recordsOf_of_classify hclass
    obtain ⟨hkind, herror⟩ := ErrorPayload.isEscapeFree_of_recordsOf (hfree.2.2 v hdecode)
      (hrecords ▸ List.mem_cons_self)
    exact .append (.append (.append (by decide) hkind) (by decide)) herror

end TezosNode
