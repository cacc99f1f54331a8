import WalletGateway.Payload.Report

/-!
# Reasons of a failure

The codes that a device puts into a failure report.
-/

namespace WalletGateway.Payload

/-- Why a device refuses or has given up. -/
inductive FailureReason where
  | unexpectedMessage | buttonExpected | dataError | actionCancelled | pinExpected | pinCancelled
  | pinInvalid | invalidSignature | processError | notEnoughFunds | notInitialized | pinMismatch
  | addressGeneration | firmwareError
  deriving DecidableEq, Inhabited

namespace FailureReason

/-- The code in a failure report. -/
def code : FailureReason → Int32
  | unexpectedMessage => 1
  | buttonExpected => 2
  | dataError => 3
  | actionCancelled => 4
  | pinExpected => 5
  | pinCancelled => 6
  | pinInvalid => 7
  | invalidSignature => 8
  | processError => 9
  | notEnoughFunds => 10
  | notInitialized => 11
  | pinMismatch => 12
  | addressGeneration => 13
  | firmwareError => 99

/-- The name of a reason. -/
def name : FailureReason → String
  | unexpectedMessage => "UnexpectedMessage"
  | buttonExpected => "ButtonExpected"
  | dataError => "DataError"
  | actionCancelled => "ActionCancelled"
  | pinExpected => "PinExpected"
  | pinCancelled => "PinCancelled"
  | pinInvalid => "PinInvalid"
  | invalidSignature => "InvalidSignature"
  | processError => "ProcessError"
  | notEnoughFunds => "NotEnoughFunds"
  | notInitialized => "NotInitialized"
  | pinMismatch => "PinMismatch"
  | addressGeneration => "AddressGeneration"
  | firmwareError => "FirmwareError"

/-- All reasons, by ascending code. -/
def all : List FailureReason :=
  [unexpectedMessage, buttonExpected, dataError, actionCancelled, pinExpected, pinCancelled,
    pinInvalid, invalidSignature, processError, notEnoughFunds, notInitialized, pinMismatch,
    addressGeneration, firmwareError]

/-- The reason with a given code, if there is one. -/
def ofCode? (code : Int32) : Option FailureReason :=
  all.find? fun reason => reason.code == code

end FailureReason

/-- The reason of a failure.  An absent or unknown code counts as the first reason. -/
def Failure.reason (failure : Failure) : FailureReason :=
  (failure.code.bind FailureReason.ofCode?).getD .unexpectedMessage

end WalletGateway.Payload
