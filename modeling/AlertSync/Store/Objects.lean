import AlertSync.Error
import AlertSync.SortedMap

/-!
# Stored objects in memory

The store keeps objects as payloads under a kind and an id. `Objects` holds them in memory, one map
for each kind, and is the meaning of the store: creating needs a free id, updating and deleting
need a taken one, and a listing is ordered by id.
-/

namespace AlertSync

/-- An object as the store gives it out. -/
structure StoredObject where
  kind : Kind
  id : String
  payload : String
  deriving DecidableEq, Repr

/-- The payloads of each kind, by id. -/
structure Objects where
  alerts : SortedMap String
  recipients : SortedMap String
  alertConfigs : SortedMap String
  deriving DecidableEq

namespace Objects

/-- No objects. -/
def empty : Objects := ⟨.empty, .empty, .empty⟩

/-- The payloads of a kind. -/
def shelf (o : Objects) : Kind → SortedMap String
  | .alert => o.alerts
  | .recipient => o.recipients
  | .alertConfig => o.alertConfigs

/-- The objects with the payloads of a kind changed. -/
def modify (o : Objects) (kind : Kind) (f : SortedMap String → SortedMap String) : Objects :=
  match kind with
  | .alert => { o with alerts := f o.alerts }
  | .recipient => { o with recipients := f o.recipients }
  | .alertConfig => { o with alertConfigs := f o.alertConfigs }

theorem shelf_modify (o : Objects) (k l : Kind) (f : SortedMap String → SortedMap String) :
    (o.modify k f).shelf l = if l = k then f (o.shelf l) else o.shelf l := by
  cases k <;> cases l <;> rfl

/-- The objects of a kind in the order of their ids. -/
def list (o : Objects) (kind : Kind) : List StoredObject :=
  (o.shelf kind).entries.map fun e => ⟨kind, e.1, e.2⟩

def get? (o : Objects) (kind : Kind) (id : String) : Option StoredObject :=
  ((o.shelf kind).find? id).map fun payload => ⟨kind, id, payload⟩

def create (o : Objects) (kind : Kind) (id payload : String) : Except Error Objects :=
  if (o.shelf kind).contains id then .error (.exists kind id)
  else .ok (o.modify kind fun m => m.insert id payload)

def update (o : Objects) (kind : Kind) (id payload : String) : Except Error Objects :=
  if (o.shelf kind).contains id then .ok (o.modify kind fun m => m.insert id payload)
  else .error (.noEntry kind id)

def delete (o : Objects) (kind : Kind) (id : String) : Except Error Objects :=
  if (o.shelf kind).contains id then .ok (o.modify kind fun m => m.erase id)
  else .error (.noEntry kind id)

end Objects

end AlertSync
