import TtlockBle.AccountKeys
import TtlockBle.Advertisement
import TtlockBle.AesKeyText
import TtlockBle.BadKey
import TtlockBle.Bolt
import TtlockBle.Checksum
import TtlockBle.Clock
import TtlockBle.Diagnostics
import TtlockBle.Disconnect
import TtlockBle.Ending
import TtlockBle.Events
import TtlockBle.Features
import TtlockBle.Inventory
import TtlockBle.KeyStore
import TtlockBle.Listening
import TtlockBle.LogCap
import TtlockBle.LogPages
import TtlockBle.Neighbours
import TtlockBle.NullFields
import TtlockBle.OverTheAir
import TtlockBle.PasscodeWindows
import TtlockBle.Passwords
import TtlockBle.Pokes
import TtlockBle.Reception
import TtlockBle.Reconnect
import TtlockBle.Retained
import TtlockBle.Settings
import TtlockBle.Sync
import TtlockBle.Validity
import TtlockBle.Windows
