import Tos.Unicode
import Tos.LogCheck.Pattern
import Tos.LogCheck.CheckFile
import Tos.LogCheck.Spec
import Tos.LogCheck.Guards
import Tos.LogCheck.Append
import Tos.LogCheck.Fix
import Tos.LogCheck.Scan
import Tos.LogCheck.Report
import Tos.LogCheck.Invariant
import Tos.LogCheck.Markdown
import Tos.LogCheck.Json
import Tos.Wallet.Mnemonic
import Tos.Wallet.KeyDecode
import Tos.ApiTests.Regex
import Tos.ApiTests.BlockFix
import Tos.ApiTests.Fixtures
