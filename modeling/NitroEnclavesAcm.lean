import NitroEnclavesAcm.Bash.Semantik
import NitroEnclavesAcm.Bash.Lauf
import NitroEnclavesAcm.Bash.Skript
import NitroEnclavesAcm.Testtool.Umgebung
import NitroEnclavesAcm.Testtool.Openssl
import NitroEnclavesAcm.Testtool.Template
import NitroEnclavesAcm.Testtool.Familien
import NitroEnclavesAcm.Testtool.Nutzlast
import NitroEnclavesAcm.Testtool.Suite
import NitroEnclavesAcm.Testtool.Main
import NitroEnclavesAcm.Testtool.Auslassung
import NitroEnclavesAcm.Testtool.Token
import NitroEnclavesAcm.Testtool.Kms
import NitroEnclavesAcm.Cdk.Konfig
import NitroEnclavesAcm.Cdk.Stapel
import NitroEnclavesAcm.Cdk.App
import NitroEnclavesAcm.Cdk.Vorgaenger
import NitroEnclavesAcm.Cdk.Ausstellung
import NitroEnclavesAcm.Devtool.Build
import NitroEnclavesAcm.Devtool.Lauf
import NitroEnclavesAcm.Devtool.Ordnung
import NitroEnclavesAcm.Devtool.Signatur
import NitroEnclavesAcm.Devtool.Main
import NitroEnclavesAcm.Devtool.Erfolg
import NitroEnclavesAcm.Cdk.Namen
