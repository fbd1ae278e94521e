import Cephlet.World

/-! CreateBucket (src/ori/bucket/server/bucket_create.go): the ORI bucket server
creates an ObjectBucketClaim for the requested bucket in its namespace, looks up the
claim's access secret, and converts both into the bucket it returns.

The Kubernetes API server keeps the claims in the order they were created. Create
refuses a name already taken in the claim's namespace (AlreadyExists), and the `Draw`
of a call may make it fail for a reason of the API server's own. An error leaves in
place whatever the API server has stored by then: nothing in bucket_create.go
deletes a claim.

The code CreateBucket calls outside bucket_create.go (the apiutils setters, the
server's secret lookup and conversion) is modelled from the spec, which fixes only
its interface. It is an input of the model, so every theorem here holds whatever it
computes. What the interface does fix is kept: the apiutils setters write an
object's labels and annotations only, and the secret lookup only reads the API
server.
-/

set_option autoImplicit false

namespace Cephlet

/-- ori.ObjectMetadata as the request hands it to SetObjectMetadata. -/
structure ObjectMetadata where
  annotations : List (String × String)
  labels : List (String × String)
  deriving DecidableEq, Repr

structure BucketSpec where
  «class» : String
  deriving DecidableEq, Repr

/-- ori.Bucket: its Metadata and Spec are pointers a request may leave nil. -/
structure Bucket where
  metadata : Option ObjectMetadata
  spec : Option BucketSpec
  deriving DecidableEq, Repr

structure CreateBucketRequest where
  bucket : Option Bucket
  deriving DecidableEq, Repr

structure CreateBucketResponse where
  bucket : Bucket
  deriving DecidableEq, Repr

/-- The labels and annotations of an object's metadata, the part the apiutils setters
write. -/
structure Tags where
  labels : List (String × String)
  annotations : List (String × String)
  deriving DecidableEq, Repr

/-- An ObjectBucketClaim with the fields CreateBucket sets. -/
structure ObjectBucketClaim where
  kind : String
  apiVersion : String
  name : String
  «namespace» : String
  tags : Tags
  storageClassName : String
  generateBucketName : String
  deriving DecidableEq, Repr

/-- A Secret as the API server returns it; bucket_create.go only passes it on. -/
structure Secret where
  data : List (String × String)
  deriving DecidableEq, Repr

/-- The API server's objects CreateBucket reaches: the claims, oldest first, and the
secrets the bucket provisioner writes. -/
structure Cluster where
  claims : List ObjectBucketClaim
  secrets : List Secret
  deriving DecidableEq, Repr

/-- How a call of the bucket server ends: with a value, an error, or a panic. -/
inductive Outcome (α : Type) where
  | ok (value : α)
  | error (failure : Failure)
  | panic
  deriving DecidableEq, Repr

/-- fmt.Errorf(text + ": %w", failure). -/
def Failure.wrap (text : String) (failure : Failure) : Failure :=
  { failure with context := text :: failure.context }

namespace Cluster

def claimsIn (cluster : Cluster) (ns : String) : List ObjectBucketClaim :=
  cluster.claims.filter (·.«namespace» == ns)

/-- client.Create of a claim: AlreadyExists when its name is taken in its namespace;
`fails` is a failure of the API server's own (a timeout, a webhook's refusal). -/
def create (cluster : Cluster) (fails : Bool) (claim : ObjectBucketClaim) :
    Except Failure Cluster :=
  if fails then .error ⟨[], .transient⟩
  else if (cluster.claimsIn claim.«namespace»).any (·.name == claim.name) then
    .error ⟨[], .alreadyExists⟩
  else .ok { cluster with claims := cluster.claims ++ [claim] }

@[simp] theorem claimsIn_store (cluster : Cluster) (claim : ObjectBucketClaim) :
    ({ cluster with claims := cluster.claims ++ [claim] } : Cluster).claimsIn claim.«namespace» =
      cluster.claimsIn claim.«namespace» ++ [claim] := by
  simp [claimsIn]

theorem create_eq_ok {cluster stored : Cluster} {fails : Bool} {claim : ObjectBucketClaim} :
    cluster.create fails claim = .ok stored ↔
      fails = false ∧ claim.name ∉ (cluster.claimsIn claim.«namespace»).map (·.name) ∧
        stored = { cluster with claims := cluster.claims ++ [claim] } := by
  unfold create
  split_ifs with failed taken
  · simp [failed]
  · simp only [List.any_eq_true, beq_iff_eq] at taken
    simp [taken]
  · have fresh : claim.name ∉ (cluster.claimsIn claim.«namespace»).map (·.name) := by
      simpa using taken
    simp [failed, fresh, eq_comm]

end Cluster

/-- Modelled from the spec: the apiutils setters and bucketv1alpha1.BucketManager, at
their interface. SetObjectMetadata can fail; the label setters cannot. -/
structure Apiutils where
  setObjectMetadata : Tags → Option ObjectMetadata → Except Failure Tags
  setClassLabel : Tags → String → Tags
  setBucketManagerLabel : Tags → String → Tags
  bucketManager : String

/-- Modelled from the spec: the Server fields CreateBucket reads, and the two methods it
calls from outside bucket_create.go, at their interface. Its client is the `Cluster` a
call is passed, its clientGetSecretFunc the lookup's read of it, and its idGen the
`Draw` of the call. -/
structure Server where
  «namespace» : String
  bucketPoolStorageClassName : String
  getBucketAccessSecretIfRequired : ObjectBucketClaim → Cluster → Except Failure (Option Secret)
  convertBucketClaimAndAccessSecretToBucket :
    ObjectBucketClaim → Option Secret → Except Failure Bucket

/-- What one CreateBucket call draws from its environment: the ID s.idGen.Generate
returns, and whether the API server fails the Create for a reason of its own. -/
structure Draw where
  generated : String
  createFails : Bool
  deriving DecidableEq, Repr

/-- Lines 35-55 of createBucketClaimAndAccessSecretFromBucket: the claim named by the
generated ID in the server's namespace, with the bucket's metadata and its class and
manager labels. A nil bucket or bucket spec panics at its field access. -/
def newBucketClaim (s : Server) (apiutils : Apiutils) (generateBucketName : String) :
    Option Bucket → Outcome ObjectBucketClaim
  | none => .panic
  | some bucket =>
    let bucketClaim : ObjectBucketClaim :=
      { kind := "ObjectBucketClaim", apiVersion := "objectbucket.io/v1alpha1",
        name := generateBucketName, «namespace» := s.«namespace», tags := ⟨[], []⟩,
        storageClassName := s.bucketPoolStorageClassName,
        generateBucketName := generateBucketName }
    match apiutils.setObjectMetadata bucketClaim.tags bucket.metadata with
    | .error err => .error err
    | .ok tags =>
      match bucket.spec with
      | none => .panic
      | some spec =>
        .ok { bucketClaim with
          tags := apiutils.setBucketManagerLabel (apiutils.setClassLabel tags spec.«class»)
            apiutils.bucketManager }

def createBucketClaimAndAccessSecretFromBucket (s : Server) (apiutils : Apiutils)
    (draw : Draw) (bucket : Option Bucket) (cluster : Cluster) :
    Outcome (ObjectBucketClaim × Option Secret) × Cluster :=
  match newBucketClaim s apiutils draw.generated bucket with
  | .panic => (.panic, cluster)
  | .error err => (.error err, cluster)
  | .ok bucketClaim =>
    match cluster.create draw.createFails bucketClaim with
    | .error err => (.error (err.wrap "error creating bucket"), cluster)
    | .ok cluster =>
      match s.getBucketAccessSecretIfRequired bucketClaim cluster with
      | .error err => (.error err, cluster)
      | .ok accessSecret => (.ok (bucketClaim, accessSecret), cluster)

def createBucket (s : Server) (apiutils : Apiutils) (draw : Draw) (req : CreateBucketRequest)
    (cluster : Cluster) : Outcome CreateBucketResponse × Cluster :=
  match createBucketClaimAndAccessSecretFromBucket s apiutils draw req.bucket cluster with
  | (.panic, cluster) => (.panic, cluster)
  | (.error err, cluster) => (.error (err.wrap "error getting bucket config"), cluster)
  | (.ok (bucketClaim, accessSecret), cluster) =>
    match s.convertBucketClaimAndAccessSecretToBucket bucketClaim accessSecret with
    | .error err => (.error err, cluster)
    | .ok v => (.ok ⟨v⟩, cluster)

/-- Every call CreateBucket makes after Create fails: the secret lookup, or else the
conversion of what it returned. -/
def Server.FailsAfterCreate (s : Server) : Prop :=
  ∀ claim cluster accessSecret,
    s.getBucketAccessSecretIfRequired claim cluster = .ok accessSecret →
      ∃ failure, s.convertBucketClaimAndAccessSecretToBucket claim accessSecret = .error failure

section

variable {s : Server} {apiutils : Apiutils} {draw : Draw} {req : CreateBucketRequest}
  {cluster stored : Cluster} {claim : ObjectBucketClaim}

/-- The claim lines 35-55 build is named by the generated ID, in the server's namespace,
with its pool's storage class. -/
theorem newBucketClaim_ok {generated : String} {bucket : Option Bucket}
    (built : newBucketClaim s apiutils generated bucket = .ok claim) :
    claim.name = generated ∧ claim.«namespace» = s.«namespace» ∧
      claim.storageClassName = s.bucketPoolStorageClassName ∧
        claim.generateBucketName = generated := by
  cases bucket with
  | none => cases built
  | some bucket =>
    simp only [newBucketClaim] at built
    split at built <;> (try split at built) <;> cases built
    exact ⟨rfl, rfl, rfl, rfl⟩

theorem newBucketClaim_accepted {bucket : Bucket} {spec : BucketSpec} {tags : Tags}
    (requested : req.bucket = some bucket) (specified : bucket.spec = some spec)
    (labelled : apiutils.setObjectMetadata ⟨[], []⟩ bucket.metadata = .ok tags)
    (generated : String) :
    ∃ claim, newBucketClaim s apiutils generated req.bucket = .ok claim := by
  simp [newBucketClaim, requested, specified, labelled]

theorem createBucket_refused {failure : Failure}
    (built : newBucketClaim s apiutils draw.generated req.bucket = .ok claim)
    (refused : cluster.create draw.createFails claim = .error failure) :
    createBucket s apiutils draw req cluster =
      (.error ((failure.wrap "error creating bucket").wrap "error getting bucket config"),
        cluster) := by
  simp only [createBucket, createBucketClaimAndAccessSecretFromBucket, built, refused]

theorem createBucket_created
    (built : newBucketClaim s apiutils draw.generated req.bucket = .ok claim)
    (created : cluster.create draw.createFails claim = .ok stored) :
    (createBucket s apiutils draw req cluster).2 = stored := by
  simp only [createBucket, createBucketClaimAndAccessSecretFromBucket, built, created]
  cases s.getBucketAccessSecretIfRequired claim stored with
  | error err => rfl
  | ok accessSecret =>
    dsimp only
    cases s.convertBucketClaimAndAccessSecretToBucket claim accessSecret <;> rfl

theorem createBucket_created_fails (failsAfterCreate : s.FailsAfterCreate)
    (built : newBucketClaim s apiutils draw.generated req.bucket = .ok claim)
    (created : cluster.create draw.createFails claim = .ok stored) :
    ∃ failure, (createBucket s apiutils draw req cluster).1 = .error failure := by
  simp only [createBucket, createBucketClaimAndAccessSecretFromBucket, built, created]
  cases found : s.getBucketAccessSecretIfRequired claim stored with
  | error err => exact ⟨_, rfl⟩
  | ok accessSecret =>
    obtain ⟨failure, converted⟩ := failsAfterCreate claim stored accessSecret found
    exact ⟨failure, by simp only [converted]⟩

end

/-- A CreateBucket call whose Create has stored its claim, and that fails afterwards in
the secret lookup or the conversion, returns its error with that claim left in the
server's namespace, where it was not before. -/
theorem create_bucket_error_keeps_claim (s : Server) (apiutils : Apiutils) (draw : Draw)
    (req : CreateBucketRequest) (cluster : Cluster) {stored after : Cluster}
    {claim : ObjectBucketClaim} {failure : Failure}
    (built : newBucketClaim s apiutils draw.generated req.bucket = .ok claim)
    (created : cluster.create draw.createFails claim = .ok stored)
    (failed : createBucket s apiutils draw req cluster = (.error failure, after)) :
    claim ∉ cluster.claimsIn s.«namespace» ∧
      after.claimsIn s.«namespace» = cluster.claimsIn s.«namespace» ++ [claim] := by
  have kept : after = stored := by rw [← createBucket_created built created, failed]
  obtain ⟨-, fresh, rfl⟩ := Cluster.create_eq_ok.mp created
  obtain ⟨-, inNamespace, -⟩ := newBucketClaim_ok built
  rw [kept, ← inNamespace, Cluster.claimsIn_store]
  exact ⟨fun mem => fresh (List.mem_map_of_mem _ mem), rfl⟩

/-- A server whose secret lookup finds nothing: the provisioner has not yet written the
claim's secret when CreateBucket asks for it, right after Create. -/
def pendingSecretServer : Server where
  «namespace» := "ceph"
  bucketPoolStorageClassName := "bucket-pool"
  getBucketAccessSecretIfRequired := fun _ _ => .error ⟨[], .notFound⟩
  convertBucketClaimAndAccessSecretToBucket := fun _ _ => .ok ⟨none, none⟩

/-- apiutils setters that accept any metadata and append the class and manager labels. -/
def labellingApiutils : Apiutils where
  setObjectMetadata := fun tags _ => .ok tags
  setClassLabel := fun tags value => { tags with labels := tags.labels ++ [("class", value)] }
  setBucketManagerLabel := fun tags value =>
    { tags with labels := tags.labels ++ [("manager", value)] }
  bucketManager := "bucket-manager"

def bucketRequest : CreateBucketRequest := ⟨some ⟨some ⟨[], []⟩, some ⟨"standard"⟩⟩⟩

def sampleClaim : ObjectBucketClaim :=
  { kind := "ObjectBucketClaim", apiVersion := "objectbucket.io/v1alpha1", name := "b1",
    «namespace» := "ceph",
    tags := ⟨[("class", "standard"), ("manager", "bucket-manager")], []⟩,
    storageClassName := "bucket-pool", generateBucketName := "b1" }

/-- The secret lookup fails with NotFound, CreateBucket returns that error, and the claim
its Create stored stays. -/
theorem pending_secret_leaks_claim :
    createBucket pendingSecretServer labellingApiutils ⟨"b1", false⟩ bucketRequest ⟨[], []⟩ =
        (.error ⟨["error getting bucket config"], .notFound⟩, ⟨[sampleClaim], []⟩) ∧
      sampleClaim ∉ (⟨[], []⟩ : Cluster).claimsIn "ceph" ∧
      (⟨[sampleClaim], []⟩ : Cluster).claimsIn "ceph" =
        (⟨[], []⟩ : Cluster).claimsIn "ceph" ++ [sampleClaim] :=
  ⟨rfl, create_bucket_error_keeps_claim pendingSecretServer labellingApiutils ⟨"b1", false⟩
    bucketRequest ⟨[], []⟩ rfl rfl rfl⟩

/-- A client's CreateBucket calls one after another, each with its own draw: their
outcomes, and the API server after the last. -/
def createBuckets (s : Server) (apiutils : Apiutils) :
    List (Draw × CreateBucketRequest) → Cluster →
      List (Outcome CreateBucketResponse) × Cluster
  | [], cluster => ([], cluster)
  | (draw, req) :: calls, cluster =>
    let first := createBucket s apiutils draw req cluster
    let rest := createBuckets s apiutils calls first.2
    (first.1 :: rest.1, rest.2)

section

variable {s : Server} {apiutils : Apiutils} {req : CreateBucketRequest} {bucket : Bucket}
  {spec : BucketSpec} {tags : Tags}

theorem createBucket_attempt (requested : req.bucket = some bucket)
    (specified : bucket.spec = some spec)
    (labelled : apiutils.setObjectMetadata ⟨[], []⟩ bucket.metadata = .ok tags)
    (failsAfterCreate : s.FailsAfterCreate) {draw : Draw} {cluster : Cluster}
    (fresh : draw.generated ∉ (cluster.claimsIn s.«namespace»).map (·.name)) :
    (∃ failure, (createBucket s apiutils draw req cluster).1 = .error failure) ∧
      ((createBucket s apiutils draw req cluster).2.claimsIn s.«namespace»).map (·.name) =
        (cluster.claimsIn s.«namespace»).map (·.name) ++
          if draw.createFails then [] else [draw.generated] := by
  obtain ⟨claim, built⟩ := newBucketClaim_accepted requested specified labelled draw.generated
  obtain ⟨named, inNamespace, -⟩ := newBucketClaim_ok built
  cases refusedByServer : draw.createFails with
  | true =>
    have refused : cluster.create draw.createFails claim = .error ⟨[], .transient⟩ := by
      simp [Cluster.create, refusedByServer]
    rw [createBucket_refused built refused]
    simp
  | false =>
    have created := Cluster.create_eq_ok.mpr ⟨refusedByServer, by rwa [inNamespace, named], rfl⟩
    refine ⟨createBucket_created_fails failsAfterCreate built created, ?_⟩
    rw [createBucket_created built created, ← inNamespace, Cluster.claimsIn_store]
    simp [named]

end

/-- A client that retries a request whose calls after Create always fail gets an error
from every attempt, and leaves one more claim in the server's namespace for each attempt
whose Create the API server accepted, named by that attempt's generated ID. -/
theorem create_bucket_retries_leak_claims (s : Server) (apiutils : Apiutils)
    (req : CreateBucketRequest) {bucket : Bucket} {spec : BucketSpec} {tags : Tags}
    (requested : req.bucket = some bucket) (specified : bucket.spec = some spec)
    (labelled : apiutils.setObjectMetadata ⟨[], []⟩ bucket.metadata = .ok tags)
    (failsAfterCreate : s.FailsAfterCreate) (draws : List Draw) (cluster : Cluster)
    (distinct : (draws.map Draw.generated).Nodup)
    (fresh : ∀ draw ∈ draws,
      draw.generated ∉ (cluster.claimsIn s.«namespace»).map (·.name)) :
    (∀ outcome ∈ (createBuckets s apiutils (draws.map (·, req)) cluster).1,
        ∃ failure, outcome = .error failure) ∧
      ((createBuckets s apiutils (draws.map (·, req)) cluster).2.claimsIn s.«namespace»).map
          (·.name) =
        (cluster.claimsIn s.«namespace»).map (·.name) ++
          (draws.filter (!·.createFails)).map Draw.generated := by
  induction draws generalizing cluster with
  | nil => simp [createBuckets]
  | cons draw rest ih =>
    obtain ⟨notAgain, distinct⟩ := List.nodup_cons.mp distinct
    obtain ⟨failed, names⟩ := createBucket_attempt requested specified labelled
      failsAfterCreate (fresh draw (List.mem_cons_self _ _))
    have fresh' : ∀ other ∈ rest, other.generated ∉
        ((createBucket s apiutils draw req cluster).2.claimsIn s.«namespace»).map (·.name) := by
      intro other mem
      have differs : other.generated ≠ draw.generated := fun same =>
        notAgain (same ▸ List.mem_map_of_mem _ mem)
      rw [names]
      split <;> simp [differs, fresh other (List.mem_cons_of_mem _ mem)]
    obtain ⟨ihFailed, ihNames⟩ := ih _ distinct fresh'
    refine ⟨?_, ?_⟩
    · simp only [List.map_cons, createBuckets, List.mem_cons]
      rintro outcome (rfl | later)
      · exact failed
      · exact ihFailed outcome later
    · simp only [List.map_cons, createBuckets, ihNames, names, List.filter_cons]
      cases draw.createFails <;> simp

/-- Three attempts of one request; the API server refuses the second one's Create. -/
def threeAttempts : List Draw := [⟨"b1", false⟩, ⟨"b2", true⟩, ⟨"b3", false⟩]

/-- All three attempts fail, and the first and third leave their claims. -/
theorem retries_leave_accepted_claims :
    (∀ outcome ∈ (createBuckets pendingSecretServer labellingApiutils
          (threeAttempts.map (·, bucketRequest)) ⟨[], []⟩).1,
        ∃ failure, outcome = .error failure) ∧
      ((createBuckets pendingSecretServer labellingApiutils
          (threeAttempts.map (·, bucketRequest)) ⟨[], []⟩).2.claimsIn "ceph").map (·.name) =
        ["b1", "b3"] :=
  create_bucket_retries_leak_claims pendingSecretServer labellingApiutils bucketRequest rfl rfl
    rfl (fun _ _ _ found => by cases found) threeAttempts ⟨[], []⟩ (by decide) (by decide)

end Cephlet
