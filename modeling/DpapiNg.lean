import DpapiNg.Bytes
import DpapiNg.Unicode
import DpapiNg.KeyIdentifier
import DpapiNg.Asn1
import DpapiNg.SecurityDescriptor
import DpapiNg.Pkcs7
import DpapiNg.Blob
import DpapiNg.Gkdi
import DpapiNg.KeyCache
import DpapiNg.Transport
import DpapiNg.Rpc
import DpapiNg.FloatDivision
import DpapiNg.Client
import DpapiNg.SharedCache
import DpapiNg.Secrecy
import DpapiNg.ClientRuns
import DpapiNg.Session
import DpapiNg.Endpoint
import DpapiNg.Interleaving
import DpapiNg.CurrentKey
import DpapiNg.EndToEnd
