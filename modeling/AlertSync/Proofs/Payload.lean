import AlertSync.Proofs.Forms
import AlertSync.Proofs.Json.RoundTrip
import AlertSync.Proofs.Timestamp.RoundTrip
import AlertSync.Resource

/-!
# Reading back payloads

A payload is read as the object that it was written from (`Alert.ofPayload_payload`,
`Recipient.ofPayload_payload`, `AlertConfig.ofPayload_payload`). A record whose parts have some of
the names that its reader knows, in the same order, is found part by part under these names
(`parts?_formOf`), and every text is read as itself (`text?_formOf`).
-/

namespace AlertSync

namespace Json

/-- How the JSON of a tree can be read. -/
def formOf (t : Tree) : Form := (valueOf t).form

/-- How the JSON text of a tree can be read. -/
theorem form?_text (t : Tree) : form? (text t) = some (formOf t) := by
  unfold form?
  rw [parse?_text]
  rfl

/-- How a text can be read. -/
theorem formOf_text (s : String) :
    formOf (.text s) = .scalar ⟨some s, none, none, some false, false⟩ := rfl

/-- The parts of a record are read under their names. -/
theorem formOf_record (parts : List (String × Tree)) :
    formOf (.record parts) = .record (parts.map fun p => (some p.1, formOf p.2)) := by
  show Form.record (Value.form.formMembers (valueOf.membersOf parts)) = _
  congr 1
  induction parts with
  | nil => rfl
  | cons p parts ih =>
    rw [List.map_cons, ← ih]
    rfl

/-- A record is read by a reader that knows all of its names. -/
theorem parts?_formOf {names : List String} {parts : List (String × Tree)}
    (hsub : (parts.map (·.1)).Sublist names) (hdistinct : names.Nodup) :
    (formOf (.record parts)).parts? names = some (parts.map fun p => (p.1, formOf p.2)) := by
  have hform : formOf (.record parts) =
      .record ((parts.map fun p => (p.1, formOf p.2)).map fun p => (some p.1, p.2)) := by
    rw [formOf_record, List.map_map]
    rfl
  have hnames : (parts.map fun p => (p.1, formOf p.2)).map (·.1) = parts.map (·.1) := by
    rw [List.map_map]
    rfl
  rw [hform]
  exact Form.parts?_record (hnames ▸ hsub) hdistinct

end Json

namespace Form

variable {α : Type}

/-- The first part of a name is the one that is read. -/
@[simp]
theorem part?_cons_self (f : Form) (parts : List (String × Form)) (name : String) (default : α)
    (read : Form → Option α) : part? ((name, f) :: parts) name default read = read f := by
  unfold part?
  rw [List.lookup_cons_self]

/-- Parts of other names are passed over. -/
@[simp]
theorem part?_cons_of_ne {f : Form} {parts : List (String × Form)} {name other : String}
    {default : α} {read : Form → Option α} (h : name ≠ other) :
    part? ((other, f) :: parts) name default read = part? parts name default read := by
  unfold part?
  rw [List.lookup_cons, beq_false_of_ne h]

/-- A part that is missing counts as the default. -/
@[simp]
theorem part?_nil (name : String) (default : α) (read : Form → Option α) :
    part? [] name default read = some default := rfl

/-- The first part of a name is the one that is read, where there must be one. -/
@[simp]
theorem required?_cons_self (f : Form) (parts : List (String × Form)) (name : String)
    (read : Form → Option α) : required? ((name, f) :: parts) name read = read f := by
  unfold required?
  rw [List.lookup_cons_self]
  rfl

/-- Parts of other names are passed over, where there must be one. -/
@[simp]
theorem required?_cons_of_ne {f : Form} {parts : List (String × Form)} {name other : String}
    {read : Form → Option α} (h : name ≠ other) :
    required? ((other, f) :: parts) name read = required? parts name read := by
  unfold required?
  rw [List.lookup_cons, beq_false_of_ne h]

/-- A written text is read as itself. -/
@[simp]
theorem text?_formOf (s : String) : text? (Json.formOf (.text s)) = some s := rfl

/-- A written word is read as what it names. -/
@[simp]
theorem word?_formOf (ofName? : String → Option α) (s : String) :
    word? ofName? (Json.formOf (.text s)) = ofName? s := rfl

/-- A written moment is read as itself. -/
@[simp]
theorem optional?_timestamp?_formOf (t : Timestamp) :
    optional? Alert.timestamp? (Json.formOf (.text t.text)) = some (some t) := by
  rw [Json.formOf_text]
  unfold optional? Alert.timestamp?
  simp [text?, Timestamp.parse?_text]

end Form

namespace HealthRule

/-- A written rule on health is read as itself. -/
@[simp]
theorem ofForm?_tree (r : HealthRule) : ofForm? (Json.formOf r.tree) = some r := by
  unfold ofForm? tree
  rw [Json.parts?_formOf]
  · simp
  · exact .refl _
  · decide

end HealthRule

namespace MetricRule

/-- A written rule on a query is read as itself. -/
@[simp]
theorem ofForm?_tree (r : MetricRule) : ofForm? (Json.formOf r.tree) = some r := by
  unfold ofForm? tree
  rw [Json.parts?_formOf]
  · simp
  · exact .refl _
  · decide

end MetricRule

namespace AdvancedOptions

/-- Written options are read as themselves. -/
@[simp]
theorem ofForm?_tree (o : AdvancedOptions) : ofForm? (Json.formOf o.tree) = some o := by
  unfold ofForm? tree
  rw [Json.parts?_formOf]
  · simp
  · exact .refl _
  · decide

end AdvancedOptions

namespace EmailRecipient

/-- A written mail address is read as itself. -/
@[simp]
theorem ofForm?_tree (r : EmailRecipient) : ofForm? (Json.formOf r.tree) = some r := by
  unfold ofForm? tree
  rw [Json.parts?_formOf]
  · simp
  · exact .refl _
  · decide

end EmailRecipient

namespace WebhookRecipient

/-- A written webhook is read as itself. -/
@[simp]
theorem ofForm?_tree (r : WebhookRecipient) : ofForm? (Json.formOf r.tree) = some r := by
  unfold ofForm? tree
  rw [Json.parts?_formOf]
  · simp
  · exact .refl _
  · decide

end WebhookRecipient

namespace EmailConfig

/-- A written mail server is read as itself. -/
@[simp]
theorem ofForm?_tree (c : EmailConfig) : ofForm? (Json.formOf c.tree) = some c := by
  unfold ofForm? tree
  rw [Json.parts?_formOf]
  · simp
  · exact .refl _
  · decide

end EmailConfig

namespace Alert

/-- A written alert is read as itself. -/
theorem ofForm?_tree (a : Alert) : ofForm? (Json.formOf a.tree) = some a := by
  unfold ofForm? tree
  rw [Json.parts?_formOf]
  · -- Each part is read by itself, and then the parts are put together.
    dsimp only [Option.bind_eq_bind, Option.bind_some]
    generalize hparts : List.map _ _ = parts
    have hid : Form.part? parts "id" "" Form.text? = some a.id := by simp [← hparts]
    have henvironment : Form.required? parts "environment" Form.text? = some a.environment := by
      simp [← hparts]
    have hdescription : Form.required? parts "description" Form.text? = some a.description := by
      simp [← hparts]
    have hseverity : Form.part? parts "severity" .critical (Form.word? Severity.ofName?) =
        some a.severity := by
      simp [← hparts, Severity.ofName?_name]
    have htargetType : Form.required? parts "targetType" (Form.word? TargetType.ofName?) =
        some a.targetType := by
      simp [← hparts, TargetType.ofName?_name]
    have htargetId : Form.part? parts "targetId" "" Form.text? = some a.targetId := by
      simp [← hparts]
    have hhostRule : Form.part? parts "hostRule" .none HealthRule.ofForm? = some a.hostRule := by
      simp [← hparts]
    have hserviceRule : Form.part? parts "serviceRule" .none HealthRule.ofForm? =
        some a.serviceRule := by
      simp [← hparts]
    have hstackRule : Form.part? parts "stackRule" .none HealthRule.ofForm? = some a.stackRule := by
      simp [← hparts]
    have hmetricRule : Form.part? parts "metricRule" .none MetricRule.ofForm? =
        some a.metricRule := by
      simp [← hparts]
    have hadvancedOptions : Form.part? parts "advancedOptions" .none AdvancedOptions.ofForm? =
        some a.advancedOptions := by
      simp [← hparts]
    have hrecipientId : Form.required? parts "recipientId" Form.text? = some a.recipientId := by
      simp [← hparts]
    have hstate : Form.part? parts "state" .enabled (Form.word? AlertState.ofName?) =
        some a.state := by
      simp [← hparts, AlertState.ofName?_name]
    have hstartsAt : Form.part? parts "startsAt" Option.none (Form.optional? timestamp?) =
        some a.startsAt := by
      rw [← hparts]
      cases a.startsAt <;> cases a.endsAt <;> simp [Tree.part?]
    have hendsAt : Form.part? parts "endsAt" Option.none (Form.optional? timestamp?) =
        some a.endsAt := by
      rw [← hparts]
      cases a.startsAt <;> cases a.endsAt <;> simp [Tree.part?]
    rw [hid, henvironment, hdescription, hseverity, htargetType,
      htargetId, hhostRule, hserviceRule, hstackRule,
      hmetricRule, hadvancedOptions, hrecipientId, hstate, hstartsAt, hendsAt]
    rfl
  · rw [List.map_append, List.map_append]
    exact ((List.Sublist.refl _).append (Tree.names_part?_sublist _ _)).append
      (Tree.names_part?_sublist _ _)
  · decide

/-- What is read from the payload of an alert is the alert. -/
theorem ofPayload_payload (a : Alert) : ofPayload a.payload = .ok a := by
  unfold ofPayload payload Resource.encode
  simp only [Json.form?_text, Option.bind_some, Resource.tree, ofForm?_tree]

end Alert

namespace Recipient

/-- A written recipient is read as itself. -/
theorem ofForm?_tree (r : Recipient) : ofForm? (Json.formOf r.tree) = some r := by
  unfold ofForm? tree
  rw [Json.parts?_formOf]
  · simp [RecipientType.ofName?_name]
  · exact .refl _
  · decide

/-- What is read from the payload of a recipient is the recipient. -/
theorem ofPayload_payload (r : Recipient) : ofPayload r.payload = .ok r := by
  unfold ofPayload payload Resource.encode
  simp only [Json.form?_text, Option.bind_some, Resource.tree, ofForm?_tree]

end Recipient

namespace AlertConfig

/-- Written notification settings are read as themselves. -/
theorem ofForm?_tree (c : AlertConfig) : ofForm? (Json.formOf c.tree) = some c := by
  unfold ofForm? tree
  rw [Json.parts?_formOf]
  · simp
  · exact .refl _
  · decide

/-- What is read from the payload of notification settings is these settings. -/
theorem ofPayload_payload (c : AlertConfig) : ofPayload c.payload = .ok c := by
  unfold ofPayload payload Resource.encode
  simp only [Json.form?_text, Option.bind_some, Resource.tree, ofForm?_tree]

end AlertConfig

end AlertSync
