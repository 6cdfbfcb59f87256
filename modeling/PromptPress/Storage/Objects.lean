import PromptPress.Path.Slug

/-!
# Object storage

A store holds objects under names in buckets.  Each call to it may fail.  What a store was asked to
put is kept in order, so that the whole history of a store can be seen.
-/

namespace PromptPress

open PromptPress.Path

/-- An object that was put into a bucket. -/
structure StoredObject where
  bucket : String
  name : String
  content : List UInt8
  mediaType : String
deriving DecidableEq, Inhabited

/-- The calls of a store that can fail. -/
inductive StoreCall where
  | exists
  | make
  | put
deriving DecidableEq, Inhabited

/-- The name of a call. -/
def StoreCall.name : StoreCall → String
  | .exists => "exists"
  | make => "make"
  | put => "put"

/-- Which calls of a store fail: all calls of a kind, or single puts, counted from one. -/
structure StoreFaults where
  existsFails : Bool := false
  makeFails : Bool := false
  putFails : Nat → Bool := fun _ => false

instance : Inhabited StoreFaults := ⟨{}⟩

/-- A store: its buckets, the objects in the order in which they were put, and the puts so far. -/
structure ObjectStore where
  buckets : List String := []
  objects : List StoredObject := []
  puts : Nat := 0
  faults : StoreFaults := {}

/-- A call to a store that failed. -/
inductive StorageError where
  | bucket (name : String) (call : StoreCall)
  | upload (object bucket : String)
deriving DecidableEq, Inhabited

/-- The text of the failure that a store reports for a call. -/
def StoreCall.failureText (call : StoreCall) : String :=
  s!"S3 operation failed; code: Boom, message: {call.name}, resource: None, request_id: None, " ++
    "host_id: None"

/-- The message of an error. -/
def StorageError.message : StorageError → String
  | bucket name call => s!"Failed to ensure bucket '{name}': {call.failureText}"
  | upload object target => s!"Failed to upload '{object}' to '{target}': {StoreCall.put.failureText}"

namespace ObjectStore

/-- Makes sure that there is a bucket. -/
def ensureBucket (store : ObjectStore) (name : String) : Except StorageError ObjectStore :=
  if store.faults.existsFails then .error (.bucket name .exists)
  else if store.buckets.contains name then .ok store
  else if store.faults.makeFails then .error (.bucket name .make)
  else .ok { store with buckets := store.buckets ++ [name] }

/-- Counts one more put. -/
def countPut (store : ObjectStore) : ObjectStore :=
  { store with puts := store.puts + 1 }

/-- Puts an object; a put that fails counts, but leaves the objects as they are. -/
def put (store : ObjectStore) (object : StoredObject) : ObjectStore × Except StorageError Unit :=
  let counted := store.countPut
  if store.faults.putFails counted.puts then
    (counted, .error (.upload object.name object.bucket))
  else ({ counted with objects := store.objects ++ [object] }, .ok ())

/-- Puts objects one after another, up to the first failure. -/
def putAll (store : ObjectStore) : List StoredObject → ObjectStore × Except StorageError Unit
  | [] => (store, .ok ())
  | object :: rest =>
    match store.put object with
    | (store, .ok ()) => store.putAll rest
    | (store, .error e) => (store, .error e)

end ObjectStore

/-- The bucket of templates where none is named. -/
def defaultBucket : String := "templates"

/-- The part of object names that one import of one user shares. -/
def importPrefix (user importId : String) : String :=
  let userPart := keySegment user "user"
  let importPart := keySegment importId "import"
  s!"templates/{userPart}/{importPart}"

end PromptPress
