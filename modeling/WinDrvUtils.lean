import WinDrvUtils.Library.StepSystem
import WinDrvUtils.Library.Ledger
import WinDrvUtils.Library.Parties
import WinDrvUtils.Nt
import WinDrvUtils.Callbacks.Notify
import WinDrvUtils.Callbacks.Ob
import WinDrvUtils.Callbacks.Cm
import WinDrvUtils.Callbacks.KeyObject
import WinDrvUtils.Callbacks.CallbackObject
import WinDrvUtils.Callbacks.Notification
import WinDrvUtils.Callbacks.HandleLifecycle
import WinDrvUtils.Io.Irp
import WinDrvUtils.Io.Cancel
import WinDrvUtils.Io.CancelClaims
import WinDrvUtils.Io.CancelContext
import WinDrvUtils.Common.Driver
import WinDrvUtils.Common.Dispatch
import WinDrvUtils.Common.Extension
import WinDrvUtils.Library.RwLock
import WinDrvUtils.Sync.LockApi
import WinDrvUtils.Sync.Exclusion
import WinDrvUtils.Library.Region
import WinDrvUtils.Library.SelfSync
import WinDrvUtils.Library.Utf8
import WinDrvUtils.Library.Utf16
import WinDrvUtils.Strings.Unicode
import WinDrvUtils.Strings.Conversion
import WinDrvUtils.Strings.Ownership
import WinDrvUtils.Strings.Validity
import WinDrvUtils.Strings.Bounds
import WinDrvUtils.Strings.Views
import WinDrvUtils.Strings.Equality
import WinDrvUtils.Strings.Text
import WinDrvUtils.Strings.Contains
import WinDrvUtils.Strings.FoldCase
import WinDrvUtils.Strings.Affixes
import WinDrvUtils.Strings.AsVec
import WinDrvUtils.Library.Numeral
import WinDrvUtils.Strings.Integer
import WinDrvUtils.Memory.Mdl
import WinDrvUtils.Memory.Pool
import WinDrvUtils.Memory.PoolContract
import WinDrvUtils.Memory.PoolClass
import WinDrvUtils.Common.ObjAttr
import WinDrvUtils.Callbacks.ObjectName
import WinDrvUtils.Io.FileObject
import WinDrvUtils.Library.LittleEndian
import WinDrvUtils.Io.DeviceControl
import WinDrvUtils.Callbacks.ObDispatch
import WinDrvUtils.Callbacks.ObCallContext
import WinDrvUtils.Callbacks.ObSnapshot
import WinDrvUtils.Callbacks.ObRegister
import WinDrvUtils.Callbacks.ObAccess
import WinDrvUtils.Sync.CriticalRegion
import WinDrvUtils.Sync.SpinLock
import WinDrvUtils.Sync.PushLock
import WinDrvUtils.Sync.InStackSpinLock
import WinDrvUtils.Sync.RemoveLock
import WinDrvUtils.Sync.RundownProtection
import WinDrvUtils.Sync.Timer
import WinDrvUtils.Sync.ObjectHandle
import WinDrvUtils.Sync.FastMutex
import WinDrvUtils.Library.Vec
import WinDrvUtils.Samples.Event
import WinDrvUtils.Samples.EventChanges
import WinDrvUtils.Samples.EventEffect
import WinDrvUtils.Samples.EventInvariant
import WinDrvUtils.Samples.EventPlaces
import WinDrvUtils.Samples.EventLifetimes
import WinDrvUtils.Samples.EventDelivery
import WinDrvUtils.Samples.EventClaims
import WinDrvUtils.Samples.EventCompletions
import WinDrvUtils.Samples.EventReferences
import WinDrvUtils.Samples.EventCleanup
import WinDrvUtils.Io.Device
import WinDrvUtils.Samples.Sioctl
import WinDrvUtils.Samples.Lifecycle
import WinDrvUtils.Samples.ObCallback
import WinDrvUtils.Samples.ObCallbackLifecycle
import WinDrvUtils.Samples.ObCallbackAccess
import WinDrvUtils.Samples.ObCallbackNames
import WinDrvUtils.Samples.EventContexts
import WinDrvUtils.Samples.EventPending
import WinDrvUtils.Samples.EventRequests
