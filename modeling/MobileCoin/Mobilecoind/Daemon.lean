import MobileCoin.Mobilecoind.Conversions

set_option autoImplicit false

namespace MobileCoin.Mobilecoind

/-- The fields of `mobilecoind::config::Config` that `main` reads itself. -/
structure Config where
  ledgerDb : String
  ledgerDbBootstrap : Option String
  txSourceUrls : List String
  mobilecoindDb : Option String
  servicePort : Option UInt16
  deriving DecidableEq, Repr

/-- The crates `main` calls, as functions of the world they run in: the file system, the
ledger database and the network. A call that changes the world returns the world it leaves,
also when it fails. -/
structure Effects (World Ledger Block Database Error : Type) where
  mrSignerTryFrom : Except Error Unit
  reqwestTransactionsFetcherNew : List String → Except Error Unit
  ledgerDbOpen : World → String → Except Error Ledger
  numBlocks : World → Ledger → Except Error UInt64
  numTxos : World → Ledger → Except Error UInt64
  pathExists : World → String → Bool
  createDirAll : World → String → World × Except Error Unit
  copy : World → String → String → World × Except Error UInt64
  ledgerDbCreate : World → String → World × Except Error Unit
  getOriginBlockAndTransactions : World → Except Error Block
  appendBlock : World → Ledger → Block → World × Except Error Unit
  databaseNew : World → String → Except Error Database
  debugError : Error → String
  debugPath : String → String

/-- `Path::join` with a relative name, on Unix. -/
def pathJoin (path name : String) : String :=
  if path.isEmpty || path.endsWith "/" then path ++ name else path ++ "/" ++ name

/-- What `main` loops in once it has started: the API services next to ledger sync, or ledger
sync alone. -/
inductive Running (Ledger Database : Type) where
  | apiServices (ledgerDb : Ledger) (mobilecoindDb : Database) (servicePort : UInt16)
  | ledgerSyncOnly (ledgerDb : Ledger)

section

variable {World Ledger Block Database Error : Type} (fx : Effects World Ledger Block Database Error)

-- A panic is an `Except.error` that carries its message.

/-- `result.expect(msg)`: the panic message is `msg` and the error's `Debug` form. -/
def expect {α : Type} (result : Except Error α) (msg : String) : Except String α :=
  result.mapError fun error => msg ++ ": " ++ fx.debugError error

/-- `result.unwrap_or_else(|_| panic!(msg))`. -/
def unwrapOrPanic {α : Type} (result : Except Error α) (msg : String) : Except String α :=
  result.mapError fun _ => msg

/-- The first lines of `create_or_open_ledger_db`: the ledger already there, if it opens and
holds a block. Logging it reads `num_txos`, which panics on an error. -/
def openExistingLedgerDb (config : Config) (world : World) : Option (Except String Ledger) :=
  match fx.ledgerDbOpen world config.ledgerDb with
  | .ok ledgerDb =>
    match fx.numBlocks world ledgerDb with
    | .ok numBlocks =>
      if 0 < numBlocks then
        some do
          let _ ← expect fx (fx.numTxos world ledgerDb) "Failed getting number of txos"
          pure ledgerDb
      else none
    | .error _ => none
  | .error _ => none

/-- The middle of `create_or_open_ledger_db`, for a ledger that is missing or empty: copy the
bootstrapped ledger's `data.mdb`, or create a ledger and append the origin block downloaded
from the network. -/
def bootstrapLedgerDb (config : Config) (world : World) : Except String World :=
  let ledgerDbFile := pathJoin config.ledgerDb "data.mdb"
  match config.ledgerDbBootstrap with
  | some ledgerDbBootstrap => do
    let world ← if !fx.pathExists world config.ledgerDb then
        let (world, created) := fx.createDirAll world config.ledgerDb
        (fun _ => world) <$> unwrapOrPanic created
          ("Failed creating directory " ++ fx.debugPath config.ledgerDb)
      else pure world
    let src := ledgerDbBootstrap ++ "/data.mdb"
    let (world, copied) := fx.copy world src ledgerDbFile
    let _ ← unwrapOrPanic copied
      ("Failed copying ledger from " ++ src ++ " into directory " ++ ledgerDbFile)
    pure world
  | none => do
    let (world, created) := fx.createDirAll world config.ledgerDb
    let _ ← expect fx created "Could not create ledger dir"
    let (world, ledgerCreated) := fx.ledgerDbCreate world config.ledgerDb
    let _ ← expect fx ledgerCreated "Could not create ledger_db"
    let block ← expect fx (fx.getOriginBlockAndTransactions world)
      "Failed to download initial transactions"
    let db ← expect fx (fx.ledgerDbOpen world config.ledgerDb) "Could not open ledger_db"
    let (world, appended) := fx.appendBlock world db block
    let _ ← expect fx appended "Failed to appened initial transactions"
    pure world

/-- The last lines of `create_or_open_ledger_db`: open the ledger just filled and make sure it
holds the origin block. -/
def openBootstrappedLedgerDb (config : Config) (world : World) : Except String Ledger := do
  let ledgerDb ← unwrapOrPanic (fx.ledgerDbOpen world config.ledgerDb)
    ("Could not open ledger db inside " ++ fx.debugPath config.ledgerDb)
  let numBlocks ← expect fx (fx.numBlocks world ledgerDb) "Failed getting number of blocks"
  if numBlocks = 0 then throw "Ledger DB is empty :("
  let _ ← expect fx (fx.numTxos world ledgerDb) "Failed getting number of txos"
  pure ledgerDb

/-- `create_or_open_ledger_db`: the ledger the daemon runs on, and the world it leaves. -/
def createOrOpenLedgerDb (config : Config) (world : World) : Except String (Ledger × World) :=
  match openExistingLedgerDb fx config world with
  | some opened => (·, world) <$> opened
  | none => do
    let world ← bootstrapLedgerDb fx config world
    let ledgerDb ← openBootstrappedLedgerDb fx config world
    pure (ledgerDb, world)

/-- `main` up to the loop it never leaves. The peer manager, the sync thread and the services it
starts are not modelled. -/
def main (config : Config) (world : World) : Except String (Running Ledger Database × World) := do
  let _ ← expect fx fx.mrSignerTryFrom "Could not parse validator node MRSIGNER"
  let _ ← expect fx (fx.reqwestTransactionsFetcherNew config.txSourceUrls)
    "Failed creating ReqwestTransactionsFetcher"
  let (ledgerDb, world) ← createOrOpenLedgerDb fx config world
  match config.mobilecoindDb, config.servicePort with
  | some mobilecoindDb, some servicePort =>
    -- the result of `create_dir_all` is dropped
    let (world, _) := fx.createDirAll world mobilecoindDb
    let database ← expect fx (fx.databaseNew world mobilecoindDb) "Could not open mobilecoinddb"
    pure (.apiServices ledgerDb database servicePort, world)
  | none, none => pure (.ledgerSyncOnly ledgerDb, world)
  | _, _ => throw "Please provide both --db and --service-port if you want to enable the API server"

end

/-- A world that is one ledger held in memory, seen through its number of blocks: every effect
succeeds, a copied ledger holds one block and appending adds one. -/
def memoryEffects : Effects Nat Unit Unit Unit Unit where
  mrSignerTryFrom := .ok ()
  reqwestTransactionsFetcherNew _ := .ok ()
  ledgerDbOpen _ _ := .ok ()
  numBlocks blocks _ := .ok (UInt64.ofNat blocks)
  numTxos blocks _ := .ok (UInt64.ofNat blocks)
  pathExists _ _ := true
  createDirAll blocks _ := (blocks, .ok ())
  copy _ _ _ := (1, .ok 1)
  ledgerDbCreate blocks _ := (blocks, .ok ())
  getOriginBlockAndTransactions _ := .ok ()
  appendBlock blocks _ _ := (blocks + 1, .ok ())
  databaseNew _ _ := .ok ()
  debugError _ := "()"
  debugPath path := path

section Spec

variable {World Ledger Block Database Error : Type} (fx : Effects World Ledger Block Database Error)
  {config : Config} {world : World}

@[simp] theorem expect_eq_ok {α : Type} {result : Except Error α} {msg : String} {a : α} :
    expect fx result msg = .ok a ↔ result = .ok a := by
  cases result <;> simp [expect, Except.mapError]

@[simp] theorem unwrapOrPanic_eq_ok {α : Type} {result : Except Error α} {msg : String} {a : α} :
    unwrapOrPanic result msg = .ok a ↔ result = .ok a := by
  cases result <;> simp [unwrapOrPanic, Except.mapError]

theorem openExistingLedgerDb_eq_some_ok {ledgerDb : Ledger} :
    openExistingLedgerDb fx config world = some (.ok ledgerDb) ↔
      fx.ledgerDbOpen world config.ledgerDb = .ok ledgerDb ∧
      (∃ numBlocks, fx.numBlocks world ledgerDb = .ok numBlocks ∧ 0 < numBlocks) ∧
      ∃ numTxos, fx.numTxos world ledgerDb = .ok numTxos := by
  constructor
  next =>
    intro opened
    unfold openExistingLedgerDb at opened
    split at opened
    next _ existing found =>
      split at opened
      next _ numBlocks counted =>
        split at opened
        next positive =>
          simp only [Option.some.injEq, bind_eq_ok, expect_eq_ok, pure_eq_ok] at opened
          obtain ⟨numTxos, counted', rfl⟩ := opened
          exact ⟨found, ⟨numBlocks, counted, positive⟩, numTxos, counted'⟩
        next => cases opened
      next => cases opened
    next => cases opened
  next =>
    rintro ⟨found, ⟨numBlocks, counted, positive⟩, numTxos, counted'⟩
    simp [openExistingLedgerDb, found, counted, positive, counted', map_eq_ok]

theorem openBootstrappedLedgerDb_eq_ok {ledgerDb : Ledger} :
    openBootstrappedLedgerDb fx config world = .ok ledgerDb ↔
      fx.ledgerDbOpen world config.ledgerDb = .ok ledgerDb ∧
      (∃ numBlocks, fx.numBlocks world ledgerDb = .ok numBlocks ∧ numBlocks ≠ 0) ∧
      ∃ numTxos, fx.numTxos world ledgerDb = .ok numTxos := by
  simp only [openBootstrappedLedgerDb, throw_eq, bind_pure_comp, error_bind, pure_bind,
    bind_eq_ok, unwrapOrPanic_eq_ok, expect_eq_ok, ite_eq_iff, reduceCtorEq, and_false, map_eq_ok,
    exists_and_right, false_or, ne_eq]
  constructor
  next =>
    rintro ⟨_, found, numBlocks, counted, nonzero, txos, rfl⟩
    exact ⟨found, ⟨numBlocks, counted, nonzero⟩, txos⟩
  next =>
    rintro ⟨found, ⟨numBlocks, counted, nonzero⟩, txos⟩
    exact ⟨_, found, numBlocks, counted, nonzero, txos, rfl⟩

theorem createOrOpenLedgerDb_nonempty (config : Config) (world world' : World) (ledgerDb : Ledger)
    (opened : createOrOpenLedgerDb fx config world = .ok (ledgerDb, world')) :
    ∃ numBlocks, fx.numBlocks world' ledgerDb = .ok numBlocks ∧ numBlocks ≠ 0 := by
  unfold createOrOpenLedgerDb at opened
  split at opened
  next existing found =>
    obtain ⟨_, rfl, ⟨⟩⟩ := map_eq_ok.mp opened
    obtain ⟨-, ⟨numBlocks, counted, positive⟩, -⟩ := (openExistingLedgerDb_eq_some_ok fx).mp found
    exact ⟨numBlocks, counted, (UInt64.ne_of_lt positive).symm⟩
  next =>
    obtain ⟨_, -, _, reopened, ⟨⟩⟩ := by simpa only [bind_eq_ok, pure_eq_ok] using opened
    exact ((openBootstrappedLedgerDb_eq_ok fx).mp reopened).2.1

theorem createOrOpenLedgerDb_nonempty_downloaded :
    createOrOpenLedgerDb memoryEffects ⟨"ledger", none, [], none, none⟩ 0 = .ok ((), 1) ∧
    ∃ numBlocks, memoryEffects.numBlocks 1 () = .ok numBlocks ∧ numBlocks ≠ 0 :=
  have opened : createOrOpenLedgerDb memoryEffects ⟨"ledger", none, [], none, none⟩ 0 =
      .ok ((), 1) := rfl
  ⟨opened, createOrOpenLedgerDb_nonempty memoryEffects _ _ _ _ opened⟩

theorem UInt64.pos_of_ne_zero {n : UInt64} (nonzero : n ≠ 0) : 0 < n :=
  Nat.pos_of_ne_zero fun zero => nonzero (UInt64.toNat.inj (zero.trans UInt64.toNat_zero.symm))

theorem existing_of_createOrOpenLedgerDb {world' : World} {ledgerDb : Ledger}
    (opened : createOrOpenLedgerDb fx config world = .ok (ledgerDb, world')) :
    openExistingLedgerDb fx config world' = some (.ok ledgerDb) := by
  unfold createOrOpenLedgerDb at opened
  split at opened
  next existing found =>
    obtain ⟨_, rfl, ⟨⟩⟩ := map_eq_ok.mp opened
    exact found
  next =>
    obtain ⟨_, -, _, reopened, ⟨⟩⟩ := by simpa only [bind_eq_ok, pure_eq_ok] using opened
    obtain ⟨found, ⟨numBlocks, counted, nonzero⟩, reported⟩ :=
      (openBootstrappedLedgerDb_eq_ok fx).mp reopened
    exact (openExistingLedgerDb_eq_some_ok fx).mpr
      ⟨found, ⟨numBlocks, counted, UInt64.pos_of_ne_zero nonzero⟩, reported⟩

theorem createOrOpenLedgerDb_idempotent (config : Config) (world world' : World)
    (ledgerDb : Ledger) (opened : createOrOpenLedgerDb fx config world = .ok (ledgerDb, world')) :
    createOrOpenLedgerDb fx config world' = .ok (ledgerDb, world') := by
  -- The checks that end the bootstrap path are those that let an existing ledger through.
  rw [createOrOpenLedgerDb, existing_of_createOrOpenLedgerDb fx opened]
  rfl

theorem createOrOpenLedgerDb_idempotent_downloaded :
    createOrOpenLedgerDb memoryEffects ⟨"ledger", none, [], none, none⟩ 0 = .ok ((), 1) ∧
    createOrOpenLedgerDb memoryEffects ⟨"ledger", none, [], none, none⟩ 1 = .ok ((), 1) :=
  have opened : createOrOpenLedgerDb memoryEffects ⟨"ledger", none, [], none, none⟩ 0 =
      .ok ((), 1) := rfl
  ⟨opened, createOrOpenLedgerDb_idempotent memoryEffects _ _ _ _ opened⟩

end Spec

end MobileCoin.Mobilecoind
