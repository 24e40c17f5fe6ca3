import TtlockBle.Code.Client
import TtlockBle.Lib.Hex
import Mathlib.Data.Nat.Size

/-! # `constants/lock_feature.py` and the features of a lock and of a key -/

open TtlockBle.Lib

namespace TtlockBle

/-- The features that have a name, by their bits. -/
inductive LockFeature where
  | passcode | ic | fingerPrint | wristBand | autoLock | passcodeWithDeleteFunction | firmwareSetting
  | modifyPasscodeFunction | manualLock | passwordDisplayOrHide | gatewayUnlock | freezeLock
  | cyclicPassword | magnetometer | configGatewayUnlock | audioManagement | nbLock | getAdminCode
  | hotelLock | lockNoClockChip | supportCloseBluetoothAdvertising | passageMode
  | passageModeAndAutoLockAndCanClose | wirelessKeyboard | lamp | tamperAlert | resetButton
  | privacyLock | deadLock | cyclicIcOrFingerPrint | unlockDirection | fingerVein | telinkChip
  | nbActiviteConfiguration | cyclicPasscodeCanRecovery | remote | accessoryBattery
  | soundVolumeAndLanguageSetting | qrCode | doorSensor | passageModeAutoUnlockSetting
  | fingerprintDistribution | zhongZheng | syno | wirelessDoorSensor | doorOpenAlarm | sensitivity
  | face3d | supportMotorTorqueSetting | cpuCard | wifiLock | wifiLockSupportStaticIp
  | incompletePasscode | supportDoubleCheck | appAuthUnlock | gatewayAuthUnlock
  | doNotSupportAppAndGatewayUnlock | supportXm | onMicroChip | zhiAnFaceDelivery | palmVein
  | supportGrass | resetLockByCode | supportThirdPartyBluetoothDevice | autoSetAngle | manualSetAngle
  | controlLatchBolt | autoSetUnlockDirection | supportIcCardSecuritySetting
  | supportWifiSleepModeTimesSetting | supportMultiFunctionKeypad | doNotSupportTurnOffLatchBolt
  | supportPublicModeSetting | supportLowBatteryUnlockSetting | supportMotorDriveTimeSetting
  | supportModifyFeatureValue | supportModifyLockNamePrefix | supportAuthCode
  | unauthorizedAttemptAlarm | supportClearPasscodeAndDynamicPasscodeSetting | powerSaverSupportWifi
  | supportBluetoothAdvertisingSetting | supportWorkingTimes | supportSupplierCode | supportCatOne
  | supportForcedOpeningDoorAlarm | zhiAnFaceFeatureSecondGeneration | supportDeadLocking
  | supportCustomQrCode | supportSafeM1Card | yiShengFaceDelivery | supportPictureFaceDelivery
  | supportSetAlias | hideWifiCatOneSleepModeSetting | supportSemiAutomaticModeControl
  | supportLockSupervision
  deriving DecidableEq, Repr

namespace LockFeature

def value : LockFeature → Nat
  | .passcode => 0 | .ic => 1 | .fingerPrint => 2 | .wristBand => 3 | .autoLock => 4
  | .passcodeWithDeleteFunction => 5 | .firmwareSetting => 6 | .modifyPasscodeFunction => 7
  | .manualLock => 8 | .passwordDisplayOrHide => 9 | .gatewayUnlock => 10 | .freezeLock => 11
  | .cyclicPassword => 12 | .magnetometer => 13 | .configGatewayUnlock => 14 | .audioManagement => 15
  | .nbLock => 16 | .getAdminCode => 18 | .hotelLock => 19 | .lockNoClockChip => 20
  | .supportCloseBluetoothAdvertising => 21 | .passageMode => 22
  | .passageModeAndAutoLockAndCanClose => 23 | .wirelessKeyboard => 24 | .lamp => 25
  | .tamperAlert => 28 | .resetButton => 29 | .privacyLock => 30 | .deadLock => 32
  | .cyclicIcOrFingerPrint => 34 | .unlockDirection => 36 | .fingerVein => 37 | .telinkChip => 38
  | .nbActiviteConfiguration => 39 | .cyclicPasscodeCanRecovery => 40 | .remote => 41
  | .accessoryBattery => 42 | .soundVolumeAndLanguageSetting => 43 | .qrCode => 44 | .doorSensor => 45
  | .passageModeAutoUnlockSetting => 46 | .fingerprintDistribution => 47 | .zhongZheng => 48
  | .syno => 49 | .wirelessDoorSensor => 50 | .doorOpenAlarm => 51 | .sensitivity => 52 | .face3d => 53
  | .supportMotorTorqueSetting => 54 | .cpuCard => 55 | .wifiLock => 56
  | .wifiLockSupportStaticIp => 58 | .incompletePasscode => 60 | .supportDoubleCheck => 63
  | .appAuthUnlock => 64 | .gatewayAuthUnlock => 65 | .doNotSupportAppAndGatewayUnlock => 66
  | .supportXm => 67 | .onMicroChip => 68 | .zhiAnFaceDelivery => 69 | .palmVein => 70
  | .supportGrass => 75 | .resetLockByCode => 76 | .supportThirdPartyBluetoothDevice => 77
  | .autoSetAngle => 78 | .manualSetAngle => 79 | .controlLatchBolt => 80
  | .autoSetUnlockDirection => 81 | .supportIcCardSecuritySetting => 82
  | .supportWifiSleepModeTimesSetting => 83 | .supportMultiFunctionKeypad => 84
  | .doNotSupportTurnOffLatchBolt => 85 | .supportPublicModeSetting => 86
  | .supportLowBatteryUnlockSetting => 87 | .supportMotorDriveTimeSetting => 88
  | .supportModifyFeatureValue => 89 | .supportModifyLockNamePrefix => 90 | .supportAuthCode => 92
  | .unauthorizedAttemptAlarm => 93 | .supportClearPasscodeAndDynamicPasscodeSetting => 95
  | .powerSaverSupportWifi => 96 | .supportBluetoothAdvertisingSetting => 97
  | .supportWorkingTimes => 98 | .supportSupplierCode => 99 | .supportCatOne => 100
  | .supportForcedOpeningDoorAlarm => 102 | .zhiAnFaceFeatureSecondGeneration => 103
  | .supportDeadLocking => 106 | .supportCustomQrCode => 108 | .supportSafeM1Card => 109
  | .yiShengFaceDelivery => 110 | .supportPictureFaceDelivery => 112 | .supportSetAlias => 114
  | .hideWifiCatOneSleepModeSetting => 117 | .supportSemiAutomaticModeControl => 119
  | .supportLockSupervision => 126

/-- In the order of the source. -/
def all : List LockFeature :=
  [.passcode, .ic, .fingerPrint, .wristBand, .autoLock, .passcodeWithDeleteFunction, .firmwareSetting,
    .modifyPasscodeFunction, .manualLock, .passwordDisplayOrHide, .gatewayUnlock, .freezeLock,
    .cyclicPassword, .magnetometer, .configGatewayUnlock, .audioManagement, .nbLock, .getAdminCode,
    .hotelLock, .lockNoClockChip, .supportCloseBluetoothAdvertising, .passageMode,
    .passageModeAndAutoLockAndCanClose, .wirelessKeyboard, .lamp, .tamperAlert, .resetButton,
    .privacyLock, .deadLock, .cyclicIcOrFingerPrint, .unlockDirection, .fingerVein, .telinkChip,
    .nbActiviteConfiguration, .cyclicPasscodeCanRecovery, .remote, .accessoryBattery,
    .soundVolumeAndLanguageSetting, .qrCode, .doorSensor, .passageModeAutoUnlockSetting,
    .fingerprintDistribution, .zhongZheng, .syno, .wirelessDoorSensor, .doorOpenAlarm, .sensitivity,
    .face3d, .supportMotorTorqueSetting, .cpuCard, .wifiLock, .wifiLockSupportStaticIp,
    .incompletePasscode, .supportDoubleCheck, .appAuthUnlock, .gatewayAuthUnlock,
    .doNotSupportAppAndGatewayUnlock, .supportXm, .onMicroChip, .zhiAnFaceDelivery, .palmVein,
    .supportGrass, .resetLockByCode, .supportThirdPartyBluetoothDevice, .autoSetAngle, .manualSetAngle,
    .controlLatchBolt, .autoSetUnlockDirection, .supportIcCardSecuritySetting,
    .supportWifiSleepModeTimesSetting, .supportMultiFunctionKeypad, .doNotSupportTurnOffLatchBolt,
    .supportPublicModeSetting, .supportLowBatteryUnlockSetting, .supportMotorDriveTimeSetting,
    .supportModifyFeatureValue, .supportModifyLockNamePrefix, .supportAuthCode,
    .unauthorizedAttemptAlarm, .supportClearPasscodeAndDynamicPasscodeSetting, .powerSaverSupportWifi,
    .supportBluetoothAdvertisingSetting, .supportWorkingTimes, .supportSupplierCode, .supportCatOne,
    .supportForcedOpeningDoorAlarm, .zhiAnFaceFeatureSecondGeneration, .supportDeadLocking,
    .supportCustomQrCode, .supportSafeM1Card, .yiShengFaceDelivery, .supportPictureFaceDelivery,
    .supportSetAlias, .hideWifiCatOneSleepModeSetting, .supportSemiAutomaticModeControl,
    .supportLockSupervision]

end LockFeature

/-- `bool(mask >> feature & 1)`. -/
def bitSet (mask feature : Int) : Py Bool :=
  if feature < 0 then .error (valueError "negative shift count")
  else .ok ((mask >>> feature.toNat) % 2 ≠ 0)

namespace DeviceFeatures

def supports (features : DeviceFeatures) (feature : Int) : Py Bool := bitSet features.mask feature

/-- The features with a name whose bits are set. -/
def known (features : DeviceFeatures) : Py (List LockFeature) :=
  LockFeature.all.filterM fun feature => features.supports feature.value

/-- The bits that are set and have no name. -/
def unnamedBits (features : DeviceFeatures) : Py (List Nat) :=
  let named := LockFeature.all.map LockFeature.value
  (List.range features.mask.size).filterM fun bit => do return (← features.supports bit) && bit ∉ named

/-- The mask in upper-case hexadecimal digits. -/
def featureValue (features : DeviceFeatures) : String :=
  String.ofList (upperNumeral features.mask)

end DeviceFeatures

namespace VirtualKey

/-- Where the digits of the cloud are none, the old special value stands in. -/
def featureMask (key : VirtualKey) : Int :=
  match parseInt16 key.featureValue with
  | some mask => mask
  | none => key.specialValue % 2 ^ 32

def hasFeature (key : VirtualKey) (feature : Int) : Py Bool := bitSet key.featureMask feature

end VirtualKey

end TtlockBle
