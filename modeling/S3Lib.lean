import S3Lib.Model.State
import S3Lib.Model.ChooseCipher
import S3Lib.Model.Lifecycle
import S3Lib.Model.Io
import S3Lib.Model.Ctrl
import S3Lib.Model.CtxCtrl
import S3Lib.Model.Secrets
import S3Lib.Model.CertReq
import S3Lib.Model.KeyGen
import S3Lib.Model.Catalog
import S3Lib.Model.KeyExchange
import S3Lib.Properties.ChooseCipher
import S3Lib.Properties.Shutdown
import S3Lib.Properties.Renegotiation
import S3Lib.Properties.HelloRandom
import S3Lib.Properties.MasterSecret
import S3Lib.Properties.Erasure
import S3Lib.Properties.CtrlErrors
import S3Lib.Properties.TicketKeys
import S3Lib.Properties.GroupNames
import S3Lib.Properties.CertRequest
import S3Lib.Properties.KeyGen
import S3Lib.Properties.CipherCatalog
import S3Lib.Properties.Configuration
import S3Lib.Properties.KeyExchange
import S3Lib.Properties.SecretRun
import S3Lib.Properties.ContextCallbacks
import S3Lib.Properties.ConnectionRun
