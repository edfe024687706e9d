import DatasetProvisioner.Annotations
import DatasetProvisioner.Text.Basic
import DatasetProvisioner.Text.Numeral

/-!
# Dataset options

The properties of a dataset that annotations may tune. A value outside a property's fixed set is
ignored: it never fails the creation of a volume.
-/
namespace DatasetProvisioner.Dataset

/-- A property that is tuned by naming one of a fixed set of values. -/
inductive Tunable where
  | checksum
  | compression
  | accessTime
  | exec
  | sync
  | snapshotDirectory
  | caseSensitivity
  | logBias
  deriving Repr, DecidableEq

namespace Tunable

/-- All of them, in the order in which they are set. -/
def all : List Tunable :=
  [.checksum, .compression, .accessTime, .exec, .sync, .snapshotDirectory, .caseSensitivity,
    .logBias]

/-- The name of the property. -/
def name : Tunable → String
  | .checksum => "checksum"
  | .compression => "compression"
  | .accessTime => "atime"
  | .exec => "exec"
  | .sync => "sync"
  | .snapshotDirectory => "snapdir"
  | .caseSensitivity => "casesensitivity"
  | .logBias => "logbias"

/-- The annotation that tunes it. -/
def key : Tunable → String
  | .checksum => Key.checksum
  | .compression => Key.compression
  | .accessTime => Key.accessTime
  | .exec => Key.exec
  | .sync => Key.sync
  | .snapshotDirectory => Key.snapshotDirectory
  | .caseSensitivity => Key.caseSensitivity
  | .logBias => Key.logBias

/-- The values it may take. -/
def accepted : Tunable → List String
  | .checksum =>
    ["on", "off", "fletcher2", "fletcher4", "sha256", "noparity", "sha512", "skein"]
  | .compression =>
    ["on", "off", "lzjb", "zle", "lz4", "gzip", "gzip-1", "gzip-2", "gzip-3", "gzip-4", "gzip-5",
      "gzip-6", "gzip-7", "gzip-8", "gzip-9"]
  | .accessTime => ["on", "off"]
  | .exec => ["on", "off"]
  | .sync => ["standard", "always", "disabled"]
  | .snapshotDirectory => ["hidden", "visible"]
  | .caseSensitivity => ["sensitive", "insensitive", "mixed"]
  | .logBias => ["latency", "throughput"]

/-- The value that a text names, up to blanks around it and the case of its letters. -/
def value? (t : Tunable) (raw : String) : Option String :=
  let value := Text.asciiLower (Text.trim raw)
  if value ∈ t.accepted then some value else none

end Tunable

/-- The tuned properties of a dataset. -/
structure Options where
  recordSize : Option Nat
  tuned : Tunable → Option String

/-- The least record size, in bytes. -/
def leastRecordSize : Nat := 512

/-- The record sizes: the nine powers of two from the least one to 128 KiB. -/
def recordSizes : List Nat :=
  (List.range 9).map fun i => leastRecordSize * Nat.pow 2 i

/-- Read a record size in bytes. -/
def recordSize? (raw : String) : Option Nat :=
  (Text.count64? (Text.trim raw)).filter (· ∈ recordSizes)

/-- The least whole number of records that holds `size` bytes, kept within 64 bits. -/
def roundUpToRecord (size record : Nat) : Nat :=
  if record = 0 then size
  else min ((size + record - 1) / record * record) Text.greatest64

namespace Options

/-- The options that a set of annotations asks for. -/
def ofAnnotations (annotations : Annotations) : Options where
  recordSize := annotations[Key.blockSize]?.bind recordSize?
  tuned t := annotations[t.key]?.bind t.value?

/-- The same options without one property. -/
def without (options : Options) (t : Tunable) : Options :=
  { options with tuned := fun u => if u = t then none else options.tuned u }

/-- The tuned properties by name, each at most once and in a fixed order. -/
def properties (options : Options) : List (String × String) :=
  (options.recordSize.toList.map fun n => ("recordsize", Text.decimal n)) ++
    Tunable.all.filterMap fun t => (options.tuned t).map fun value => (t.name, value)

end Options

end DatasetProvisioner.Dataset
