import PyIota.Library.Fallible
import PyIota.Library.Emitter
import PyIota.Library.Cursor
import PyIota.Library.Positional
import PyIota.Library.Leb128
import PyIota.Library.Numeral
import PyIota.Library.Wire
import PyIota.Library.LastWrite
import PyIota.Library.Polling
import PyIota.Library.Interleaving
import PyIota.Library.Commuting
import PyIota.Library.Base64
import PyIota.Library.Blake2b
import PyIota.Codec
import PyIota.BcsRuns
import PyIota.Base58
import PyIota.Address
import PyIota.TypeTagSlip
import PyIota.TransactionWire
import PyIota.BuilderSafety
import PyIota.BuilderAtomicity
import PyIota.AddressSlots
import PyIota.Uleb128Overflow
import PyIota.ReaderCursor
import PyIota.EngineErrors
import PyIota.CommandEncoding
import PyIota.Settings
import PyIota.ObjectDigests
import PyIota.ClientDecoding
import PyIota.GasSelection
import PyIota.ConcurrentBuilds
import PyIota.ConcurrentScripts
import PyIota.BuilderMeaning
import PyIota.HandleOrder
import PyIota.SettingsOrder
import PyIota.PureValues
import PyIota.BuildSucceeds
import PyIota.SignedBuilds
import PyIota.BuildRequests
import PyIota.BulkLookup
import PyIota.Submissions
import PyIota.QueryAnswers
