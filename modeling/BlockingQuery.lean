import BlockingQuery.Adjustment
import BlockingQuery.Answer
import BlockingQuery.Cache.Backoff
import BlockingQuery.Cache.Command
import BlockingQuery.Cache.Config
import BlockingQuery.Cache.Environment
import BlockingQuery.Cache.Event
import BlockingQuery.Cache.Fleet
import BlockingQuery.Cache.Key
import BlockingQuery.Cache.Keying
import BlockingQuery.Cache.Notification
import BlockingQuery.Cache.Poll
import BlockingQuery.Cache.Registry
import BlockingQuery.Cache.Resource
import BlockingQuery.Cache.Scripted
import BlockingQuery.Cache.Snapshot
import BlockingQuery.Cache.State
import BlockingQuery.Client
import BlockingQuery.Compression.Bits
import BlockingQuery.Compression.Checksum
import BlockingQuery.Compression.Inflate
import BlockingQuery.Compression.PrefixCode
import BlockingQuery.Compression.Wrapper
import BlockingQuery.Exchange
import BlockingQuery.Failover.Blacklist
import BlockingQuery.Failover.Policy
import BlockingQuery.Failover.Strategy
import BlockingQuery.Failure
import BlockingQuery.Http.Address
import BlockingQuery.Http.ContentCoding
import BlockingQuery.Http.ContentType
import BlockingQuery.Http.Cookie
import BlockingQuery.Http.Credentials
import BlockingQuery.Http.Date
import BlockingQuery.Http.DomainName
import BlockingQuery.Http.DomainName.Classes
import BlockingQuery.Http.Headers
import BlockingQuery.Http.Parameter
import BlockingQuery.Http.Percent
import BlockingQuery.Http.Query
import BlockingQuery.Http.Reference
import BlockingQuery.Http.Request
import BlockingQuery.Http.Url
import BlockingQuery.Json.Decode
import BlockingQuery.Json.Equality
import BlockingQuery.Json.Shown
import BlockingQuery.Json.Value
import BlockingQuery.Number.Binary64
import BlockingQuery.Number.Numeral
import BlockingQuery.Number.Shortest
import BlockingQuery.OrderedMap
import BlockingQuery.Seconds
import BlockingQuery.Session
import BlockingQuery.Target
import BlockingQuery.Text.Blank
import BlockingQuery.Text.CharacterName
import BlockingQuery.Text.CharacterSet.Basic
import BlockingQuery.Text.CharacterSet.Big5
import BlockingQuery.Text.CharacterSet.Gb2312
import BlockingQuery.Text.CharacterSet.Gbk
import BlockingQuery.Text.CharacterSet.Hkscs
import BlockingQuery.Text.CharacterSet.JisX0208
import BlockingQuery.Text.CharacterSet.JisX0212
import BlockingQuery.Text.CharacterSet.JisX0213
import BlockingQuery.Text.CharacterSet.KsX1001
import BlockingQuery.Text.CharacterSet.Windows31J
import BlockingQuery.Text.Charset
import BlockingQuery.Text.CodePage.Basic
import BlockingQuery.Text.CodePage.Dos
import BlockingQuery.Text.CodePage.Ebcdic
import BlockingQuery.Text.CodePage.Iso8859
import BlockingQuery.Text.CodePage.Macintosh
import BlockingQuery.Text.CodePage.National
import BlockingQuery.Text.CodePage.Windows
import BlockingQuery.Text.CodePoint
import BlockingQuery.Text.Composition
import BlockingQuery.Text.Digit
import BlockingQuery.Text.Direction
import BlockingQuery.Text.Encoding
import BlockingQuery.Text.Escape
import BlockingQuery.Text.Joining
import BlockingQuery.Text.Lead
import BlockingQuery.Text.LetterCase
import BlockingQuery.Text.Mark
import BlockingQuery.Text.Multibyte
import BlockingQuery.Text.Multibyte.Chinese
import BlockingQuery.Text.Multibyte.Iso2022
import BlockingQuery.Text.Multibyte.Japanese
import BlockingQuery.Text.Multibyte.Korean
import BlockingQuery.Text.Normalization
import BlockingQuery.Text.Printable
import BlockingQuery.Text.Punycode
import BlockingQuery.Text.Quoted
import BlockingQuery.Text.Table
import BlockingQuery.Text.Utf7
import BlockingQuery.Wait
import BlockingQuery.Proofs.Cache.Reaction
import BlockingQuery.Proofs.Cache.Asking
import BlockingQuery.Proofs.Cache.Blame
import BlockingQuery.Proofs.Cache.Callback
import BlockingQuery.Proofs.Cache.Delivery
import BlockingQuery.Proofs.Cache.Dispatch
import BlockingQuery.Proofs.Cache.Ending
import BlockingQuery.Proofs.Cache.Entries
import BlockingQuery.Proofs.Cache.Freeze
import BlockingQuery.Proofs.Cache.Unpolled
import BlockingQuery.Proofs.Cache.Keyed
import BlockingQuery.Proofs.Cache.Lifecycle
import BlockingQuery.Proofs.Cache.Mishap
import BlockingQuery.Proofs.Cache.Moments
import BlockingQuery.Proofs.Cache.Moves
import BlockingQuery.Proofs.Cache.Quiet
import BlockingQuery.Proofs.Cache.Recipients
import BlockingQuery.Proofs.Cache.Registry
import BlockingQuery.Proofs.Cache.Round
import BlockingQuery.Proofs.Cache.RecordedStreak
import BlockingQuery.Proofs.Cache.Run
import BlockingQuery.Proofs.Cache.Stopping
import BlockingQuery.Proofs.Cache.Tally
import BlockingQuery.Proofs.Cache.Trace
import BlockingQuery.Proofs.Cache.Turns
import BlockingQuery.Proofs.Cache.View
import BlockingQuery.Proofs.Failover.Attempts
import BlockingQuery.Proofs.Failover.Blame
import BlockingQuery.Proofs.Failover.Choice
import BlockingQuery.Proofs.Failover.Cycle
import BlockingQuery.Proofs.Failover.Interleaving
import BlockingQuery.Proofs.Failover.Ledger
import BlockingQuery.Proofs.Failover.Reliability
import BlockingQuery.Proofs.Failover.Retargeting
import BlockingQuery.Proofs.Http.NormalForm
import BlockingQuery.Proofs.Http.Query
import BlockingQuery.Proofs.OrderedMap
import BlockingQuery.Proofs.Text.Utf8
import BlockingQuery.Proofs.Cache.FailureStreak
import BlockingQuery.Proofs.Http.Path
import BlockingQuery.Proofs.Cache.Site
import BlockingQuery.Proofs.Json.Grammar
import BlockingQuery.Proofs.Json.Reader
import BlockingQuery.Proofs.Answer
import BlockingQuery.Proofs.Json.Limits
import BlockingQuery.Proofs.Cache.Transport
import BlockingQuery.Proofs.Number.Binary64
import BlockingQuery.Proofs.Number.Product
import BlockingQuery.Proofs.ReadLimit
import BlockingQuery.Proofs.Cache.Backoff
import BlockingQuery.Proofs.Number.Numeral
import BlockingQuery.Proofs.Target
import BlockingQuery.Proofs.Http.Host
import BlockingQuery.Proofs.Failover.Relocation
import BlockingQuery.Proofs.Wait
import BlockingQuery.Proofs.Cache.Budget
import BlockingQuery.Proofs.Cache.Instances
import BlockingQuery.Proofs.Cache.Environment
import BlockingQuery.Proofs.Cache.Membership
