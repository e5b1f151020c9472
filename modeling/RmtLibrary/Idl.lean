import RmtLibrary.CString

/-! # The messages of the IDL files -/
namespace Idl

open CString (Text)

/-- `DataInfo::TYPE`. A received value outside the enumeration is `other`. -/
inductive DataInfoType where
  | get
  | set
  | setSameValue
  | importFile
  | exportFile
  | other (value : ℕ)
  deriving DecidableEq, Repr

/-- `DataInfo::Request`, keyed by `random_seq`. -/
structure DataInfoRequest where
  idList : List ℕ
  type : DataInfoType
  randomSeq : ℕ
  msg : Text
  binary : List UInt8
  deriving DecidableEq, Repr

/-- `DataInfo::Reply`, keyed by `random_seq`. -/
structure DataInfoReply where
  deviceID : ℕ
  type : DataInfoType
  randomSeq : ℕ
  msg : Text
  binary : List UInt8
  deriving DecidableEq, Repr

structure DeviceInfoMsg where
  deviceID : ℕ
  model : Text
  host : Text
  ip : Text
  mac : Text
  rmtVersion : Text
  devinfo : Text
  deriving DecidableEq, Repr

structure QosEvent where
  topic : Text
  robotId : Text
  qosEvent : ℕ
  deriving DecidableEq, Repr

end Idl
