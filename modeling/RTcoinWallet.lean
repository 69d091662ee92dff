import RTcoinWallet.Errors
import RTcoinWallet.Json.Writer
import RTcoinWallet.Json.Reader
import RTcoinWallet.Json.RoundTrip
import RTcoinWallet.Codec
import RTcoinWallet.FileSystem
import RTcoinWallet.Lifecycle
import RTcoinWallet.GetInput
import RTcoinWallet.Prompts
import RTcoinWallet.Backend
import RTcoinWallet.Keys
import RTcoinWallet.Import
import RTcoinWallet.Construction
import RTcoinWallet.Rescan
import RTcoinWallet.PreparedCache
import RTcoinWallet.PreparedInterleaving
import RTcoinWallet.Queries
import RTcoinWallet.Session
import RTcoinWallet.Miner.Template
import RTcoinWallet.Miner.Manager
